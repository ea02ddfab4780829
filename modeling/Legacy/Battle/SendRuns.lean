import Legacy.Battle.SendAction

/-!
# A call as steps of the battle

`sendAction` is one function, and the battle takes its actions and hits one by one, each with its own dice. What a call
returns is reached by the steps of the battle (`sendAction_runs`), so that what holds in every state of a run holds
after every call.
-/

namespace Legacy.Battle
open Legacy.Lib

namespace Combat

variable {rules : Rules} {s s' : Combat} {action hit : BattleAction} {sinfo : SpellInfo} {catched : Bool}

/-- A run without a condition on its events. -/
abbrev FreeRuns (rules : Rules) : Combat → Combat → Prop := Runs rules fun _ _ => True

/-- A step goes before a run. -/
lemma freeRuns_step {s₁ : Combat} (e : Event) (next : s.step rules e = .ok s₁) (run : FreeRuns rules s₁ s') :
    FreeRuns rules s s' :=
  Reaches.head trivial (show (s.step rules e).toOption = some s₁ by rw [next]; rfl) run

/-- A hit does not look at where the program is. -/
lemma spellMod_control (s : Combat) (control : Control) (h : Hits) (hit : BattleAction) (attacker victim : Nat)
    (dice : HitDice) :
    { s with control := control }.spellMod h hit attacker victim dice =
      { s.spellMod h hit attacker victim dice with control := control } := by
  rw [spellMod, spellMod]
  simp only
  split
  · rfl
  · split
    · rfl
    · split
      · rw [reward.eq_def, reward.eq_def]
        simp only
        split
        · rfl
        · split <;> rfl
      · rfl

/-- A strike is a step of the battle. -/
lemma strike_step {dice : HitDice} {record : HitRecord} (run : s.strike sinfo catched hit dice = .ok (s', record))
    (pending : List BattleAction) (g : Group) :
    step rules { s with control := .hits ⟨hit :: pending, sinfo, catched, g⟩ } (.hit dice) =
      .ok { s' with control := Control.resume ⟨pending, sinfo, catched, g⟩ } := by
  obtain ⟨attacker, victim, by', at', rfl⟩ := strike_inv run ⟨hit :: pending, sinfo, catched, g⟩ rfl rfl
  calc step rules { s with control := .hits ⟨hit :: pending, sinfo, catched, g⟩ } (.hit dice)
      = Combat.hit { s with control := .hits ⟨hit :: pending, sinfo, catched, g⟩ }
          ⟨hit :: pending, sinfo, catched, g⟩ hit dice := rfl
    _ = _ := by
      rw [Combat.hit, by', at']
      simp only
      rw [spellMod_control]
      rfl

/-- The hits of an action, one after the other. -/
lemma strikeAll_runs {dice : Nat → HitDice} {hits : List BattleAction} {records : List CellRecord}
    (run : strikeAll sinfo catched action dice hits s = .ok (s', records)) (g : Group) :
    FreeRuns rules { s with control := Control.resume ⟨hits, sinfo, catched, g⟩ } { s' with control := .group g } := by
  induction hits generalizing s records with
  | nil =>
    cases run
    exact Reaches.refl
  | cons hit hits ih =>
    obtain ⟨⟨s₁, record⟩, first, run⟩ := bind_eq_ok.mp run
    obtain ⟨⟨s₂, records'⟩, others, run⟩ := bind_eq_ok.mp run
    cases run
    exact freeRuns_step (.hit (dice hits.length)) (strike_step first hits g) (ih others)

/-- The group of the loop after an action with `rest` behind it; a defence leaves nothing to do. -/
def groupAfter (v : Sending) (rest : List BattleAction) (skill : Nat) : Fate → Group
  | .defended => ⟨[], v.linked || !rest.isEmpty, v.skillId, false⟩
  | .block _ => ⟨rest, v.linked || !rest.isEmpty, skill, true⟩
  | .absent | .dead | .disabled | .escaped => ⟨rest, v.linked || !rest.isEmpty, v.skillId, v.valid_action⟩

/-- An action is performed in one step and a step for each of its hits. The number of the hit model of a template
fits into the `uint8` that it is cut to. -/
lemma perform_runs {v : Sending} {rest : List BattleAction} {dice : ActDice} {hits : Nat → HitDice} {fate : Fate}
    (bytes : ∀ skill, ∀ sinfo ∈ rules.spellTemplate skill, sinfo.hit < 2 ^ 8)
    (run : v.combat.perform rules (v.linked || !rest.isEmpty) action dice hits = .ok (s', fate)) :
    FreeRuns rules { v.combat with control := .group ⟨action :: rest, v.linked, v.skillId, v.valid_action⟩ }
      { s' with control := .group (groupAfter v rest action.skill fate) } := by
  have start : step rules { v.combat with control := .group ⟨action :: rest, v.linked, v.skillId, v.valid_action⟩ }
      (.act dice) = act rules { v.combat with control := .group ⟨action :: rest, v.linked, v.skillId, v.valid_action⟩ }
        ⟨rest, v.linked, v.skillId, v.valid_action⟩ action dice := rfl
  rw [act] at start
  simp only at start
  cases perform_inv run with
  | absent cell =>
    rw [cell] at start
    exact freeRuns_step _ start Reaches.refl
  | dead cell fallen =>
    rw [cell] at start
    simp only [fallen, Bool.true_or, if_true] at start
    exact freeRuns_step _ start Reaches.refl
  | disabled cell alive held =>
    rw [cell] at start
    simp only [held, Bool.or_true, if_true] at start
    exact freeRuns_step _ start Reaches.refl
  | defended cell alive able defends =>
    rw [cell] at start
    simp only [alive, able, Bool.or_false, Bool.false_eq_true, if_false, if_pos defends] at start
    exact freeRuns_step _ start Reaches.refl
  | escaped cell alive able attacks flees escape =>
    rw [cell] at start
    simp only [alive, able, Bool.or_false, Bool.false_eq_true, if_false, if_neg attacks, if_pos flees, escape] at start
    exact freeRuns_step _ start Reaches.refl
  | block cell alive able attacks stays build =>
    obtain ⟨b, catched, sinfo, records, caught, template, strikes, -⟩ := buildUpdateBlock_inv build
    rw [cell] at start
    simp only [alive, able, Bool.or_false, Bool.false_eq_true, if_false, if_neg attacks, if_neg stays,
      buildUpdateBlockAction, caught, ok_bind, template] at start
    rw [u8_of_lt (bytes action.skill sinfo template)] at strikes
    exact freeRuns_step _ start (strikeAll_runs strikes _)

/-- The loop over a list of actions ends where the battle does after its steps. -/
lemma sendLoop_runs {dice : SendDice} {l : List BattleAction} {v : Sending} {sent : Sent}
    (bytes : ∀ skill, ∀ sinfo ∈ rules.spellTemplate skill, sinfo.hit < 2 ^ 8)
    (run : sendLoop rules dice l v = .ok sent) :
    FreeRuns rules { v.combat with control := .group ⟨l, v.linked, v.skillId, v.valid_action⟩ }
      { sent.combat with control := .concluding } := by
  induction l generalizing v sent with
  | nil =>
    cases run
    refine freeRuns_step .finish rfl ?_
    cases v.valid_action with
    | false => exact Reaches.refl
    | true => exact Reaches.refl
  | cons action rest ih =>
    obtain ⟨combat, fate, done, forms⟩ := sendLoop_cons run
    refine (perform_runs bytes done).trans ?_
    rcases forms with ⟨rfl, rfl⟩ | ⟨other, later, loop, rfl⟩
    · exact freeRuns_step .finish rfl Reaches.refl
    · have onward := ih loop
      rw [Sending.next] at onward
      cases fate with
      | defended => exact absurd rfl other
      | absent | dead | disabled | escaped =>
        simp only [Fate.isBlock, Bool.or_false, Bool.false_eq_true, if_false] at onward
        exact onward
      | block written =>
        simp only [Fate.isBlock, Bool.or_true, if_true] at onward
        exact onward

/-- What a call returns is reached from the list it takes by steps of the battle. -/
theorem sendAction_runs {dice : SendDice} {sent : Sent}
    (bytes : ∀ skill, ∀ sinfo ∈ rules.spellTemplate skill, sinfo.hit < 2 ^ 8)
    (run : s.sendAction rules dice = .ok (some sent)) :
    ∃ i b g, s.engine.firstList = some i ∧ s.engine.takeList i = .ok (b, g) ∧
      FreeRuns rules { s with engine := b, control := .group g } { sent.combat with control := .concluding } := by
  obtain ⟨i, b, g, first, take, loop⟩ := sendAction_some run
  exact ⟨i, b, g, first, take, sendLoop_runs bytes loop⟩

end Combat

end Legacy.Battle
