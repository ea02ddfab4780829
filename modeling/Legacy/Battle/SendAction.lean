import Legacy.Battle.HitRecord

/-!
# Performing a list of actions

`SendAction` takes a list of actions and performs them one after the other in a single call. Here it is one
function, with the blocks that it writes for the clients and a log of what became of each action. The module
`SendRuns` shows that it takes the steps of the battle.
-/

namespace Legacy.Battle
open Legacy.Lib

/-- The record of a hit behind its cell. -/
structure CellRecord where
  cell : Nat × Nat
  record : HitRecord
  deriving DecidableEq, Repr

/-- What is written for an action (source `BattleSystem::BuildUpdateBlockAction`). The `skills` are those that the
switch over its skill writes. -/
structure Block where
  atkCell : Nat × Nat
  skills : List Nat
  hit : Nat
  records : List CellRecord
  deriving DecidableEq, Repr

/-- The dice of a call: those of an action by the number of actions after it in its list, those of a hit also by
the number of hits after it. -/
structure SendDice where
  act : Nat → ActDice
  hit : Nat → Nat → HitDice

/-- What became of an action that was reached. -/
inductive Fate where
  | absent | dead | disabled | defended | escaped
  | block (block : Block)

/-- A block was written for the action. -/
def Fate.isBlock : Fate → Bool
  | .block _ => true
  | _ => false

/-- An action with the battle as it was when it was reached. -/
structure Entry where
  action : BattleAction
  reached : Engine
  fate : Fate

/-- What the log says of an action that was not performed. -/
def Entry.Justified (entry : Entry) : Prop :=
  match entry.fate with
  | .absent => entry.reached.getAttacker entry.action = none
  | .dead => ∃ u, entry.reached.getAttacker entry.action = some u ∧ (entry.reached.units u).isDead
  | .disabled => ∃ u, entry.reached.getAttacker entry.action = some u ∧ (entry.reached.units u).isDisabled
  | .defended | .escaped | .block _ => True

/-- The local variables of `BattleSystem::SendAction`. -/
structure Sending where
  combat : Combat
  linked : Bool
  skillId : Nat
  valid_action : Bool

/-- The variables after an action with `more` actions behind it. -/
def Sending.next (s : Sending) (more : Bool) (action : BattleAction) (combat : Combat) (fate : Fate) : Sending where
  combat := combat
  linked := s.linked || more
  skillId := if fate.isBlock then action.skill else s.skillId
  valid_action := s.valid_action || fate.isBlock

/-- What a call leaves: the battle, the actions that were reached, and whether its packet is sent. -/
structure Sent where
  combat : Combat
  log : List Entry
  broadcast : Bool

/-- source `SPELL_SUCCESS_CATCH` -/
abbrev spellSuccessCatch : Nat := 15003

/-- source `SPELL_ESCAPE_FAILED` -/
abbrev spellEscapeFailed : Nat := 18002

/-- A hit with this spell, outside of a loop. -/
def Hits.of (sinfo : SpellInfo) (catched : Bool) : Hits := ⟨[], sinfo, catched, ⟨[], false, spellBasic, false⟩⟩

namespace BattleAction

/-- The action without its target, which a redirection changes. -/
def key (action : BattleAction) : BattleAction := action.withTarget (0, 0)

/-- The case `SPELL_ESCAPE` of the switch. -/
def caseEscape : List Nat := [spellEscapeFailed]

/-- The default of the switch. -/
def caseDefault (action : BattleAction) : List Nat := if action.skill < 26000 then [action.skill] else [19001]

/-- The cases `SPELL_CATCH` of the switch, which break off when a pet was caught and otherwise go on with the
default. -/
def caseCatch (action : BattleAction) (catched : Bool) : List Nat :=
  if catched then [spellSuccessCatch] else action.caseDefault

/-- What the switch over the skill writes. -/
def skills (action : BattleAction) (catched : Bool) : List Nat :=
  if action.skill = spellEscape then caseEscape
  else if action.skill = spellCatch ∨ action.skill = spellCatch2 then action.caseCatch catched
  else action.caseDefault

/-- The default case writes one skill. -/
lemma length_caseDefault (action : BattleAction) : action.caseDefault.length = 1 := by
  rw [caseDefault]
  split <;> rfl

/-- The case of a catch writes one skill. -/
lemma length_caseCatch (action : BattleAction) (catched : Bool) : (action.caseCatch catched).length = 1 := by
  rw [caseCatch]
  split
  · rfl
  · exact action.length_caseDefault

/-- Whatever becomes of an action, exactly one skill is written for it. -/
lemma length_skills (action : BattleAction) (catched : Bool) : (action.skills catched).length = 1 := by
  rw [skills]
  split
  · rfl
  split
  · exact action.length_caseCatch catched
  · exact action.length_caseDefault

/-- The cell that is written for a hit. -/
def hitCell (action hit : BattleAction) : Nat × Nat :=
  if action.skill = spellDefense ∨ action.skill = spellEscape then hit.atkCell else hit.tgtCell

end BattleAction

namespace Combat

/-- A hit with its record (source, the body of the loop of `BattleSystem::BuildUpdateBlockAction`). -/
def strike (s : Combat) (sinfo : SpellInfo) (catched : Bool) (hit : BattleAction) (dice : HitDice) :
    Except Halt (Combat × HitRecord) :=
  match s.engine.getAttacker hit, s.engine.getVictim hit with
  | some attacker, some victim =>
    let unit := s.engine.units victim
    let point_inflicted := unit.getDamage sinfo dice.amount
    let result := unit.buildUpdateBlockSpellMod sinfo point_inflicted (Unit.pointModifier point_inflicted) catched
      dice.missed
    let s := { s with engine := s.engine.setUnit victim result.victim }
    let s := if result.killed then s.reward hit attacker victim dice.drop else s
    .ok ({ s with engine := if catched then s.engine.clearCell hit.tgtCell else s.engine }, result.record)
  | _, _ => .error (.null .hit)

/-- All hits of an action. -/
def strikeAll (sinfo : SpellInfo) (catched : Bool) (action : BattleAction) (dice : Nat → HitDice) :
    List BattleAction → Combat → Except Halt (Combat × List CellRecord)
  | [], s => return (s, [])
  | hit :: hits, s => do
    let (s, record) ← s.strike sinfo catched hit (dice hits.length)
    let (s, records) ← strikeAll sinfo catched action dice hits s
    return (s, ⟨action.hitCell hit, record⟩ :: records)

/-- source `BattleSystem::BuildUpdateBlockAction`; the model of the hits is cut to a `uint8` -/
def buildUpdateBlock (rules : Rules) (s : Combat) (linked : Bool) (action : BattleAction) (dice : ActDice)
    (hits : Nat → HitDice) : Except Halt (Combat × Block) := do
  let (b, catched) ← s.engine.catchPet action dice
  match rules.spellTemplate action.skill with
  | none => throw .noTemplate
  | some sinfo =>
    let (s, records) ← strikeAll sinfo catched action hits (b.parseSpell action (u8 sinfo.hit) linked)
      { s with engine := b }
    return (s, ⟨action.atkCell, action.skills catched, sinfo.hit, records⟩)

/-- One action (source, the body of the loop of `BattleSystem::SendAction`). -/
def perform (rules : Rules) (s : Combat) (linked : Bool) (action : BattleAction) (dice : ActDice)
    (hits : Nat → HitDice) : Except Halt (Combat × Fate) :=
  match s.engine.getAttacker action with
  | none => .ok (s, .absent)
  | some u =>
    let attacker := s.engine.units u
    if attacker.isDead then .ok (s, .dead)
    else if attacker.isDisabled then .ok (s, .disabled)
    else if action.skill = spellDefense then
      .ok ({ s with engine := s.engine.setUnit u (attacker.addUnitState Unit.defend) }, .defended)
    else if action.skill = spellEscape ∧ 65 < dice.escape then do
      let b ← s.engine.escaped action
      return ({ s with engine := b }, .escaped)
    else do
      let (s, block) ← s.buildUpdateBlock rules linked action dice hits
      return (s, .block block)

/-- The loop of `BattleSystem::SendAction`. A defence returns from the function. -/
def sendLoop (rules : Rules) (dice : SendDice) : List BattleAction → Sending → Except Halt Sent
  | [], s =>
    return ⟨if s.valid_action then { s.combat with engine := s.combat.engine.waitForAnimation s.skillId }
      else s.combat, [], s.valid_action⟩
  | action :: rest, s => do
    let linked := s.linked || !rest.isEmpty
    let (combat, fate) ← s.combat.perform rules linked action (dice.act rest.length) (dice.hit rest.length)
    let entry := ⟨action, s.combat.engine, fate⟩
    match fate with
    | .defended => return ⟨combat, [entry], false⟩
    | fate =>
      let sent ← sendLoop rules dice rest (s.next (!rest.isEmpty) action combat fate)
      return { sent with log := entry :: sent.log }

/-- source `BattleSystem::SendAction`; `none` stands for `false` -/
def sendAction (rules : Rules) (dice : SendDice) (s : Combat) : Except Halt (Option Sent) :=
  match s.engine.firstList with
  | none => return none
  | some i => do
    let (b, g) ← s.engine.takeList i
    let sent ← sendLoop rules dice g.rest ⟨{ s with engine := b }, g.linked, g.skillId, g.valid⟩
    return some sent

section Forms

variable {rules : Rules} {dice : SendDice} {s s' : Combat} {v : Sending} {sent : Sent} {action : BattleAction}
  {rest : List BattleAction} {linked : Bool}

/-- The two forms of a round of the loop: a defence, after which nothing is done, or another action. -/
lemma sendLoop_cons (run : sendLoop rules dice (action :: rest) v = .ok sent) :
    ∃ combat fate, v.combat.perform rules (v.linked || !rest.isEmpty) action (dice.act rest.length)
        (dice.hit rest.length) = .ok (combat, fate) ∧
      (fate = .defended ∧ sent = ⟨combat, [⟨action, v.combat.engine, fate⟩], false⟩ ∨
        fate ≠ .defended ∧ ∃ later, sendLoop rules dice rest (v.next (!rest.isEmpty) action combat fate) = .ok later ∧
          sent = { later with log := ⟨action, v.combat.engine, fate⟩ :: later.log }) := by
  rw [sendLoop] at run
  obtain ⟨⟨combat, fate⟩, done, run⟩ := bind_eq_ok.mp run
  refine ⟨combat, fate, done, ?_⟩
  cases fate with
  | defended =>
    cases run
    exact .inl ⟨rfl, rfl⟩
  | absent | dead | disabled | escaped =>
    obtain ⟨later, loop, run⟩ := bind_eq_ok.mp run
    cases run
    exact .inr ⟨nofun, later, loop, rfl⟩
  | block written =>
    obtain ⟨later, loop, run⟩ := bind_eq_ok.mp run
    cases run
    exact .inr ⟨nofun, later, loop, rfl⟩

/-- A call takes the first list that is not empty. -/
lemma sendAction_some (run : s.sendAction rules dice = .ok (some sent)) :
    ∃ i b g, s.engine.firstList = some i ∧ s.engine.takeList i = .ok (b, g) ∧
      sendLoop rules dice g.rest ⟨{ s with engine := b }, g.linked, g.skillId, g.valid⟩ = .ok sent := by
  rw [sendAction] at run
  split at run
  · cases run
  · next i first =>
    obtain ⟨⟨b, g⟩, take, run⟩ := bind_eq_ok.mp run
    obtain ⟨sent', loop, run⟩ := bind_eq_ok.mp run
    cases run
    exact ⟨i, b, g, first, take, loop⟩

/-- Nothing is sent exactly when no list is left. -/
lemma sendAction_none_iff : s.sendAction rules dice = .ok none ↔ s.engine.firstList = none := by
  rw [sendAction]
  constructor
  · intro run
    split at run
    · next none => exact none
    · obtain ⟨taken, -, run⟩ := bind_eq_ok.mp run
      obtain ⟨sent, -, run⟩ := bind_eq_ok.mp run
      cases run
  · intro none
    rw [none]
    rfl

/-- What an action does. -/
inductive Performs (rules : Rules) (s : Combat) (linked : Bool) (action : BattleAction) (dice : ActDice)
    (hits : Nat → HitDice) : Combat → Fate → Prop
  | absent (cell : s.engine.getAttacker action = none) : Performs rules s linked action dice hits s .absent
  | dead {u} (cell : s.engine.getAttacker action = some u) (fallen : (s.engine.units u).isDead) :
    Performs rules s linked action dice hits s .dead
  | disabled {u} (cell : s.engine.getAttacker action = some u) (alive : (s.engine.units u).isDead = false)
      (held : (s.engine.units u).isDisabled) :
    Performs rules s linked action dice hits s .disabled
  | defended {u} (cell : s.engine.getAttacker action = some u) (alive : (s.engine.units u).isDead = false)
      (able : (s.engine.units u).isDisabled = false) (defends : action.skill = spellDefense) :
    Performs rules s linked action dice hits
      { s with engine := s.engine.setUnit u ((s.engine.units u).addUnitState Unit.defend) } .defended
  | escaped {u b} (cell : s.engine.getAttacker action = some u) (alive : (s.engine.units u).isDead = false)
      (able : (s.engine.units u).isDisabled = false) (attacks : action.skill ≠ spellDefense)
      (flees : action.skill = spellEscape ∧ 65 < dice.escape) (run : s.engine.escaped action = .ok b) :
    Performs rules s linked action dice hits { s with engine := b } .escaped
  | block {u s' written} (cell : s.engine.getAttacker action = some u) (alive : (s.engine.units u).isDead = false)
      (able : (s.engine.units u).isDisabled = false) (attacks : action.skill ≠ spellDefense)
      (stays : ¬(action.skill = spellEscape ∧ 65 < dice.escape))
      (run : s.buildUpdateBlock rules linked action dice hits = .ok (s', written)) :
    Performs rules s linked action dice hits s' (.block written)

/-- An action that is performed is one of the cases. -/
lemma perform_inv {actDice : ActDice} {hits : Nat → HitDice} {fate : Fate}
    (run : s.perform rules linked action actDice hits = .ok (s', fate)) :
    Performs rules s linked action actDice hits s' fate := by
  rw [perform] at run
  split at run
  · next cell =>
    cases run
    exact .absent cell
  · next u cell =>
    simp only at run
    split at run
    · next fallen =>
      cases run
      exact .dead cell fallen
    · next alive =>
      rw [Bool.not_eq_true] at alive
      split at run
      · next held =>
        cases run
        exact .disabled cell alive held
      · next able =>
        rw [Bool.not_eq_true] at able
        split at run
        · next defends =>
          cases run
          exact .defended cell alive able defends
        · next attacks =>
          split at run
          · next flees =>
            obtain ⟨b, escape, run⟩ := bind_eq_ok.mp run
            cases run
            exact .escaped cell alive able attacks flees escape
          · next stays =>
            obtain ⟨⟨s₁, written⟩, build, run⟩ := bind_eq_ok.mp run
            cases run
            exact .block cell alive able attacks stays build

/-- The hits of an action, where its spell has a template. -/
lemma buildUpdateBlock_inv {actDice : ActDice} {hits : Nat → HitDice} {written : Block}
    (run : s.buildUpdateBlock rules linked action actDice hits = .ok (s', written)) :
    ∃ b catched sinfo records, s.engine.catchPet action actDice = .ok (b, catched) ∧
      rules.spellTemplate action.skill = some sinfo ∧
      strikeAll sinfo catched action hits (b.parseSpell action (u8 sinfo.hit) linked) { s with engine := b } =
        .ok (s', records) ∧
      written = ⟨action.atkCell, action.skills catched, sinfo.hit, records⟩ := by
  rw [buildUpdateBlock] at run
  obtain ⟨⟨b, catched⟩, caught, run⟩ := bind_eq_ok.mp run
  simp only at run
  split at run
  · cases run
  · next sinfo template =>
    obtain ⟨⟨s₁, records⟩, strikes, run⟩ := bind_eq_ok.mp run
    cases run
    exact ⟨b, catched, sinfo, records, caught, template, strikes, rfl⟩

end Forms

section Turns

variable {rules : Rules} {dice : SendDice} {s s' : Combat} {v : Sending} {sent : Sent} {action hit : BattleAction}
  {sinfo : SpellInfo} {catched : Bool} {record : HitRecord}

/-- A hit does to the battle what the model without records does. -/
lemma strike_inv {hitDice : HitDice} (run : s.strike sinfo catched hit hitDice = .ok (s', record)) (h : Hits)
    (spell : h.sinfo = sinfo) (caught : h.catched = catched) :
    ∃ attacker victim, s.engine.getAttacker hit = some attacker ∧ s.engine.getVictim hit = some victim ∧
      s' = { s.spellMod h hit attacker victim hitDice with
        engine :=
          if catched then (s.spellMod h hit attacker victim hitDice).engine.clearCell hit.tgtCell
          else (s.spellMod h hit attacker victim hitDice).engine } := by
  subst spell caught
  rw [strike] at run
  split at run
  · next attacker victim by' at' =>
    cases run
    refine ⟨attacker, victim, by', at', ?_⟩
    rw [spellMod_eq]
  · cases run

/-- A strike keeps the turn. -/
lemma strike_sameTurn {hitDice : HitDice} (run : s.strike sinfo catched hit hitDice = .ok (s', record)) :
    Engine.SameTurn s.engine s'.engine := by
  obtain ⟨attacker, victim, -, -, rfl⟩ := strike_inv run (Hits.of sinfo catched) rfl rfl
  have hits := (spellMod_frame s (Hits.of sinfo catched) hit attacker victim hitDice).2.1
  simp only
  split
  · exact hits.trans ⟨⟨rfl, rfl, rfl, rfl⟩, rfl⟩
  · exact hits

/-- Strikes keep the turn. -/
lemma strikeAll_sameTurn {dice : Nat → HitDice} {hits : List BattleAction} {records : List CellRecord}
    (run : strikeAll sinfo catched action dice hits s = .ok (s', records)) : Engine.SameTurn s.engine s'.engine := by
  induction hits generalizing s records with
  | nil =>
    cases run
    exact Engine.SameTurn.refl _
  | cons hit hits ih =>
    rw [strikeAll] at run
    obtain ⟨⟨s₁, record⟩, first, run⟩ := bind_eq_ok.mp run
    obtain ⟨⟨s₂, records'⟩, others, run⟩ := bind_eq_ok.mp run
    cases run
    exact (strike_sameTurn first).trans (ih others)

/-- An action leaves the turn alone. -/
lemma perform_sameTurn {linked : Bool} {actDice : ActDice} {hits : Nat → HitDice} {fate : Fate}
    (run : s.perform rules linked action actDice hits = .ok (s', fate)) : Engine.SameTurn s.engine s'.engine := by
  cases perform_inv run with
  | absent | dead | disabled => exact Engine.SameTurn.refl _
  | defended => exact ⟨⟨rfl, rfl, rfl, rfl⟩, rfl⟩
  | escaped cell alive able attacks flees flight =>
    obtain ⟨u, -, rfl⟩ := Engine.escaped_cases flight
    exact Engine.leaveBattle_sameTurn _ u
  | block cell alive able attacks stays build =>
    obtain ⟨b, catched, sinfo, records, caught, -, strikes, -⟩ := buildUpdateBlock_inv build
    exact (Engine.catchPet_fades caught).2.trans (strikeAll_sameTurn strikes)

/-- The loop over a list keeps the turn. -/
lemma sendLoop_sameTurn {l : List BattleAction} (run : sendLoop rules dice l v = .ok sent) :
    Engine.SameTurn v.combat.engine sent.combat.engine := by
  induction l generalizing v sent with
  | nil =>
    cases run
    simp only
    split
    · exact ⟨⟨rfl, rfl, rfl, rfl⟩, rfl⟩
    · exact Engine.SameTurn.refl _
  | cons action rest ih =>
    obtain ⟨combat, fate, done, ⟨-, rfl⟩ | ⟨-, later, loop, rfl⟩⟩ := sendLoop_cons run
    · exact perform_sameTurn done
    · exact (perform_sameTurn done).trans (ih loop)

end Turns

end Combat

namespace Engine

variable {b b' : Engine}

/-- The lists before the first one are empty. -/
lemma firstList_before {i : Nat} (first : b.firstList = some i) : ∀ j < i, b.actions j = [] := by
  intro j lt
  have none := (List.find?_range_eq_some.mp first).2.2 j lt
  simp only [decide_not, Bool.not_not, decide_eq_true_eq] at none
  exact none

/-- The actions that are taken come first in the lists, and the others are left. -/
lemma takeList_pending {i : Nat} {g : Group} (first : b.firstList = some i) (run : b.takeList i = .ok (b', g)) :
    g.rest ≠ [] ∧ b.pending.map BattleAction.key = g.rest.map BattleAction.key ++ b'.pending.map BattleAction.key := by
  obtain ⟨lt, full⟩ := firstList_eq_some first
  obtain ⟨action, rest, list⟩ := List.exists_cons_of_ne_nil full
  obtain ⟨left, acts, rfl, rfl, taken⟩ := takeList_cases list run
  obtain ⟨tail, eq⟩ := flatMap_first lt (firstList_before first)
  have all : b.pending = (action :: rest) ++ tail := by
    have same := eq (action :: rest)
    rw [← list, Function.update_eq_self] at same
    rw [← list]
    exact same
  have others : pending { b with actions := Function.update b.actions i left } = left ++ tail := eq left
  rw [all, others]
  rcases taken with ⟨rfl, rfl⟩ | ⟨rfl, rfl, -⟩
  · refine ⟨List.cons_ne_nil _ _, ?_⟩
    rw [List.nil_append, List.map_append]
  · refine ⟨List.cons_ne_nil _ _, ?_⟩
    have key : (b.redirected action).key = action.key := by
      rw [redirected]
      split <;> rfl
    rw [List.map_append, List.map_append, List.map_cons, List.map_cons, List.map_nil, key]
    rfl

end Engine

namespace Combat

variable {rules : Rules} {s s₁ s' : Combat}

/-- A call with the battle before it and its dice. -/
structure Call where
  before : Combat
  dice : SendDice
  sent : Sent

/-- Calls that return `true`, one after the other. What happens between them builds no actions. -/
inductive Calls (rules : Rules) : Combat → List Call → Combat → Prop
  | done (s : Combat) : Calls rules s [] s
  | call {s s₁ s' : Combat} {dice : SendDice} {sent : Sent} {calls : List Call}
      (run : s.sendAction rules dice = .ok (some sent)) (same : s₁.engine.actions = sent.combat.engine.actions)
      (rest : Calls rules s₁ calls s') :
    Calls rules s (⟨s, dice, sent⟩ :: calls) s'

/-- What is pending depends on the lists only. -/
lemma pending_congr {b b' : Engine} (same : b'.actions = b.actions) : b'.pending = b.pending := by
  rw [Engine.pending, same]
  rfl

/-- A call takes the first actions of those that are left. -/
lemma sendAction_pending {dice : SendDice} {sent : Sent} (run : s.sendAction rules dice = .ok (some sent)) :
    ∃ i b g, s.engine.firstList = some i ∧ s.engine.takeList i = .ok (b, g) ∧
      sendLoop rules dice g.rest ⟨{ s with engine := b }, g.linked, g.skillId, g.valid⟩ = .ok sent ∧ g.rest ≠ [] ∧
      s.engine.pending.map BattleAction.key =
        g.rest.map BattleAction.key ++ sent.combat.engine.pending.map BattleAction.key := by
  obtain ⟨i, b, g, first, take, loop⟩ := sendAction_some run
  obtain ⟨some, keys⟩ := Engine.takeList_pending first take
  refine ⟨i, b, g, first, take, loop, some, ?_⟩
  rw [keys, pending_congr (sendLoop_sameTurn loop).actions]

/-- Every call leaves fewer actions. -/
lemma sendAction_less {dice : SendDice} {sent : Sent} (run : s.sendAction rules dice = .ok (some sent)) :
    sent.combat.engine.pending.length < s.engine.pending.length := by
  obtain ⟨i, b, g, -, -, -, some, keys⟩ := sendAction_pending run
  have lengths := congrArg List.length keys
  rw [List.length_append, List.length_map, List.length_map, List.length_map] at lengths
  have pos := List.length_pos_of_ne_nil some
  omega

/-- Nothing is left. -/
lemma firstList_none_iff {b : Engine} : b.firstList = none ↔ b.pending = [] := by
  constructor
  · intro none
    exact List.flatMap_eq_nil_iff.mpr fun i mem => Engine.firstList_eq_none none i (List.mem_range.mp mem)
  · intro empty
    refine List.find?_eq_none.mpr fun i mem full => ?_
    exact of_decide_eq_true full (List.flatMap_eq_nil_iff.mp empty i mem)

/-- There are no more calls than actions pending. -/
lemma calls_length {calls : List Call} (run : Calls rules s calls s') :
    calls.length + s'.engine.pending.length ≤ s.engine.pending.length := by
  induction run with
  | done => rw [List.length_nil, Nat.zero_add]
  | call run same rest ih =>
    have less := sendAction_less run
    rw [pending_congr same] at ih
    rw [List.length_cons]
    omega

/-- A call returns `false` exactly when no action is left, and leaves fewer actions otherwise; so a turn of `N`
actions is resolved after at most `N` calls. -/
theorem sendAction_resolves (rules : Rules) (s : Combat) :
    (∀ dice, s.sendAction rules dice = .ok none ↔ s.engine.pending = []) ∧
      (∀ dice sent, s.sendAction rules dice = .ok (some sent) →
        sent.combat.engine.pending.length < s.engine.pending.length) ∧
      ∀ calls s', Calls rules s calls s' → calls.length ≤ s.engine.pending.length ∧
        (calls.length = s.engine.pending.length → ∀ dice, s'.sendAction rules dice = .ok none) := by
  refine ⟨fun dice => sendAction_none_iff.trans firstList_none_iff, fun dice sent run => sendAction_less run, ?_⟩
  intro calls s' run
  have bound := calls_length run
  refine ⟨by omega, fun all dice => ?_⟩
  have none : s'.engine.pending.length = 0 := by omega
  exact sendAction_none_iff.mpr (firstList_none_iff.mpr (List.length_eq_zero_iff.mp none))

/-- The action is a defence, and its attacker is there, not dead and not disabled. -/
def takesStance (b : Engine) (action : BattleAction) : Bool :=
  match b.getAttacker action with
  | none => false
  | some u => !(b.units u).isDead && !(b.units u).isDisabled && action.skill = spellDefense

/-- Whenever an action of the list is reached that takes a stance, no actions of its list are left and no block has
been written. The actions before it are performed to find the battle in which it is reached. -/
def clear (rules : Rules) (dice : SendDice) : List BattleAction → Sending → Bool
  | [], _ => true
  | action :: rest, s =>
    if takesStance s.combat.engine action then rest.isEmpty && !s.valid_action
    else
      match s.combat.perform rules (s.linked || !rest.isEmpty) action (dice.act rest.length) (dice.hit rest.length) with
      | .error _ => true
      | .ok (combat, fate) => clear rules dice rest (s.next (!rest.isEmpty) action combat fate)

/-- The call never returns from a defence with something left to do. -/
def Call.clear (rules : Rules) (call : Call) : Bool :=
  match call.before.engine.firstList with
  | none => true
  | some i =>
    match call.before.engine.takeList i with
    | .error _ => true
    | .ok (b, g) =>
      Combat.clear rules call.dice g.rest ⟨{ call.before with engine := b }, g.linked, g.skillId, g.valid⟩

/-- All these actions were reached, and the blocks are sent if there are any. -/
def Heeded (valid : Bool) (l : List BattleAction) (sent : Sent) : Prop :=
  sent.log.map Entry.action = l ∧
    ((valid = true ∨ ∃ entry ∈ sent.log, entry.fate.isBlock = true) → sent.broadcast = true)

variable {dice : SendDice} {v : Sending} {sent : Sent} {l : List BattleAction}

/-- What is logged was taken, in its order. -/
lemma sendLoop_prefix (run : sendLoop rules dice l v = .ok sent) : sent.log.map Entry.action <+: l := by
  induction l generalizing v sent with
  | nil =>
    cases run
    exact List.nil_prefix
  | cons action rest ih =>
    obtain ⟨combat, fate, -, ⟨-, rfl⟩ | ⟨-, later, loop, rfl⟩⟩ := sendLoop_cons run
    · exact ⟨rest, rfl⟩
    · exact (List.prefix_cons_inj action).mpr (ih loop)

/-- A stance is taken by just the actions of which the predicate says so. -/
lemma takesStance_iff {linked : Bool} {actDice : ActDice} {hits : Nat → HitDice} {fate : Fate}
    (run : s.perform rules linked action actDice hits = .ok (s', fate)) :
    takesStance s.engine action = true ↔ fate = .defended := by
  rw [takesStance]
  cases perform_inv run with
  | absent cell =>
    rw [cell]
    exact iff_of_false Bool.false_ne_true nofun
  | dead cell fallen =>
    rw [cell]
    simp only [fallen, Bool.not_true, Bool.false_and]
    exact iff_of_false Bool.false_ne_true nofun
  | disabled cell alive held =>
    rw [cell]
    simp only [held, Bool.not_true, Bool.false_and, Bool.and_false]
    exact iff_of_false Bool.false_ne_true nofun
  | defended cell alive able defends =>
    rw [cell]
    simp [alive, able, defends]
  | escaped cell alive able attacks | block cell alive able attacks =>
    rw [cell]
    simp only [decide_eq_false attacks, Bool.and_false]
    exact iff_of_false Bool.false_ne_true nofun

/-- The loop reaches all actions and sends its blocks exactly if it is clear. -/
lemma sendLoop_heeded_iff (run : sendLoop rules dice l v = .ok sent) :
    Heeded v.valid_action l sent ↔ clear rules dice l v = true := by
  induction l generalizing v sent with
  | nil =>
    cases run
    refine iff_of_true ⟨rfl, ?_⟩ rfl
    rintro (valid | ⟨entry, mem, -⟩)
    · exact valid
    · cases mem
  | cons action rest ih =>
    obtain ⟨combat, fate, done, ⟨rfl, rfl⟩ | ⟨other, later, loop, rfl⟩⟩ := sendLoop_cons run
    · rw [clear, if_pos ((takesStance_iff done).mpr rfl)]
      simp only [Bool.and_eq_true, List.isEmpty_iff, Bool.not_eq_true']
      constructor
      · rintro ⟨all, told⟩
        refine ⟨(List.cons.inj all).2.symm, Bool.eq_false_of_not_eq_true fun valid => ?_⟩
        cases told (.inl valid)
      · rintro ⟨rfl, quiet⟩
        refine ⟨rfl, ?_⟩
        rintro (valid | ⟨entry, mem, written⟩)
        · rw [quiet] at valid
          cases valid
        · cases List.mem_singleton.mp mem
          cases written
    · have later_iff := ih loop
      have onward : clear rules dice (action :: rest) v =
          clear rules dice rest (v.next (!rest.isEmpty) action combat fate) := by
        rw [clear, if_neg fun stance => other ((takesStance_iff done).mp stance), done]
      rw [onward, ← later_iff]
      refine and_congr (List.cons_inj_right action) (imp_congr_left ?_)
      rw [Sending.next, Bool.or_eq_true, or_assoc]
      exact or_congr_right (List.exists_mem_cons_iff ..)

/-- Every entry of the log is justified. -/
lemma sendLoop_justified (run : sendLoop rules dice l v = .ok sent) : ∀ entry ∈ sent.log, entry.Justified := by
  induction l generalizing v sent with
  | nil =>
    cases run
    intro entry mem
    cases mem
  | cons action rest ih =>
    obtain ⟨combat, fate, done, forms⟩ := sendLoop_cons run
    have here : Entry.Justified ⟨action, v.combat.engine, fate⟩ := by
      cases perform_inv done with
      | absent cell => exact cell
      | dead cell fallen => exact ⟨_, cell, fallen⟩
      | disabled cell alive held => exact ⟨_, cell, held⟩
      | defended | escaped | block => trivial
    rcases forms with ⟨-, rfl⟩ | ⟨-, later, loop, rfl⟩
    · intro entry mem
      rw [List.mem_singleton.mp mem]
      exact here
    · exact List.forall_mem_cons.mpr ⟨here, ih loop⟩

/-- A call heeds what it took exactly if it is clear. -/
lemma call_heeded_iff (run : s.sendAction rules dice = .ok (some sent)) :
    ∃ taken, s.engine.pending.map BattleAction.key =
        taken.map BattleAction.key ++ sent.combat.engine.pending.map BattleAction.key ∧
      sent.log.map Entry.action <+: taken ∧
      (Heeded false taken sent ↔ (Call.mk s dice sent).clear rules = true) := by
  obtain ⟨i, b, g, first, take, loop, -, keys⟩ := sendAction_pending run
  refine ⟨g.rest, keys, sendLoop_prefix loop, ?_⟩
  have fresh : g.valid = false := by
    obtain ⟨action, rest, list⟩ := List.exists_cons_of_ne_nil (Engine.firstList_eq_some first).2
    obtain ⟨left, acts, -, rfl, -⟩ := Engine.takeList_cases list take
    rfl
  have heeded := sendLoop_heeded_iff loop
  rw [fresh] at heeded
  rw [heeded, Call.clear, first]
  simp only
  rw [take, ← fresh]

/-- The actions that a turn logs. -/
def logged (calls : List Call) : List BattleAction := calls.flatMap fun call => call.sent.log.map Entry.action

/-- The blocks of every call are sent. -/
def AllSent (calls : List Call) : Prop :=
  ∀ call ∈ calls, (∃ entry ∈ call.sent.log, entry.fate.isBlock = true) → call.sent.broadcast = true

/-- The log of a call and of those after it. -/
lemma logged_cons (call : Call) (calls : List Call) :
    logged (call :: calls) = call.sent.log.map Entry.action ++ logged calls := rfl

/-- No more actions are logged than were pending. -/
lemma logged_length {calls : List Call} (run : Calls rules s calls s') :
    (logged calls).length + s'.engine.pending.length ≤ s.engine.pending.length := by
  induction run with
  | done => rw [logged, List.flatMap_nil, List.length_nil, Nat.zero_add]
  | call run same rest ih =>
    obtain ⟨taken, keys, short, -⟩ := call_heeded_iff run
    have lengths := congrArg List.length keys
    have less := short.length_le
    rw [List.length_append, List.length_map, List.length_map, List.length_map] at lengths
    rw [pending_congr same] at ih
    rw [logged_cons, List.length_append]
    simp only
    omega

/-- Along a turn, the actions that were waiting are logged in their order and their blocks sent exactly if all
calls are clear. -/
lemma calls_heeded_iff {calls : List Call} (run : Calls rules s calls s') :
    ((logged calls).map BattleAction.key ++ s'.engine.pending.map BattleAction.key =
        s.engine.pending.map BattleAction.key ∧ AllSent calls) ↔
      ∀ call ∈ calls, call.clear rules = true := by
  induction run with
  | done =>
    refine iff_of_true ⟨rfl, ?_⟩ ?_
    · intro call mem
      cases mem
    · intro call mem
      cases mem
  | @call s s₁ s' dice sent calls run same rest ih =>
    obtain ⟨taken, keys, short, heeded⟩ := call_heeded_iff run
    have bound := logged_length rest
    rw [pending_congr same] at bound ih
    have few : ((logged calls).map BattleAction.key ++ s'.engine.pending.map BattleAction.key).length ≤
        (sent.combat.engine.pending.map BattleAction.key).length := by
      rw [List.length_append, List.length_map, List.length_map, List.length_map]
      exact bound
    have all := @map_append_eq_iff _ _ BattleAction.key _ _ _ _ short few
    rw [← List.append_assoc, ← List.map_append, ← keys] at all
    rw [List.forall_mem_cons, ← heeded, ← ih, Heeded, AllSent, AllSent, List.forall_mem_cons, logged_cons, all]
    simp only [Bool.false_eq_true, false_or]
    tauto

/-- Every entry of every call is justified. -/
lemma calls_justified {calls : List Call} (run : Calls rules s calls s') :
    ∀ call ∈ calls, ∀ entry ∈ call.sent.log, entry.Justified := by
  induction run with
  | done =>
    intro call mem
    cases mem
  | call run same rest ih =>
    obtain ⟨i, b, g, -, -, loop⟩ := sendAction_some run
    exact List.forall_mem_cons.mpr ⟨sendLoop_justified loop, ih⟩

/-- In a turn that is resolved, every action that was waiting has been reached, performed unless its attacker was
absent, dead or disabled, and its block sent, exactly if all calls are clear. -/
theorem turn_heeded_iff {calls : List Call} (run : Calls rules s calls s') (resolved : s'.engine.pending = []) :
    ((logged calls).map BattleAction.key = s.engine.pending.map BattleAction.key ∧ AllSent calls ∧
        ∀ call ∈ calls, ∀ entry ∈ call.sent.log, entry.Justified) ↔
      ∀ call ∈ calls, call.clear rules = true := by
  have heeded := calls_heeded_iff run
  rw [resolved, List.map_nil, List.append_nil] at heeded
  rw [← heeded]
  exact and_congr_right fun _ => and_iff_left (calls_justified run)

/-- As many calls with the same dice. -/
def callsFor (rules : Rules) (dice : SendDice) : Nat → Combat → Option (List Call × Combat)
  | 0, s => some ([], s)
  | n + 1, s =>
    match s.sendAction rules dice with
    | .ok (some sent) => (callsFor rules dice n sent.combat).map fun run => (⟨s, dice, sent⟩ :: run.1, run.2)
    | _ => none

/-- What the executable run yields are calls. -/
lemma calls_of_callsFor {n : Nat} {calls : List Call} (run : callsFor rules dice n s = some (calls, s')) :
    Calls rules s calls s' ∧ calls.length = n := by
  induction n generalizing s calls with
  | zero =>
    cases run
    exact ⟨.done _, rfl⟩
  | succ n ih =>
    rw [callsFor] at run
    split at run
    · next sent first =>
      obtain ⟨⟨calls', s₁⟩, rest, eq⟩ := Option.map_eq_some_iff.mp run
      cases eq
      obtain ⟨later, length⟩ := ih rest
      exact ⟨.call first rfl later, congrArg Nat.succ length⟩
    · cases run

/-- The player and its pet before a creature, with these actions to perform. -/
def petTurn (first second : List BattleAction) : Combat :=
  ⟨{ petDuel with actions := fun i => if i = 0 then first else if i = 1 then second else [] }, .updating, [], [], []⟩

/-- The same roll on every throw, and ten points for every hit. -/
def evenSend (roll : ℚ) : SendDice := ⟨fun _ => ⟨roll, roll, none⟩, fun _ _ => ⟨10, roll, none⟩⟩

/-- The turn of the example ends after two calls, both of them clear. -/
lemma callsFor_petTurn :
    ((callsFor Engine.basicRules (evenSend 50) 2
        (petTurn [⟨3, 2, spellBasic, 0, 2, 20⟩] [⟨2, 2, spellDefense, 2, 2, 15⟩])).any fun run =>
      run.2.engine.pending = [] && run.1.all (Call.clear Engine.basicRules)) = true := by
  decide +kernel

/-- The player attacks and its pet defends itself, each in a list of its own. -/
theorem turn_heeded_petTurn :
    ∃ calls s',
      Calls Engine.basicRules (petTurn [⟨3, 2, spellBasic, 0, 2, 20⟩] [⟨2, 2, spellDefense, 2, 2, 15⟩]) calls s' ∧
      (logged calls).map BattleAction.key =
        (petTurn [⟨3, 2, spellBasic, 0, 2, 20⟩] [⟨2, 2, spellDefense, 2, 2, 15⟩]).engine.pending.map BattleAction.key ∧
      AllSent calls := by
  obtain ⟨⟨calls, s'⟩, run, checked⟩ := (Option.any_eq_true _ _).mp callsFor_petTurn
  rw [Bool.and_eq_true, decide_eq_true_eq, List.all_eq_true] at checked
  obtain ⟨turn, -⟩ := calls_of_callsFor run
  obtain ⟨all, sent, -⟩ := (turn_heeded_iff turn checked.1).mpr checked.2
  exact ⟨calls, s', turn, all, sent⟩

/-- The two actions are performed in two calls. -/
theorem sendAction_resolves_petTurn :
    ∃ calls s',
      Calls Engine.basicRules (petTurn [⟨3, 2, spellBasic, 0, 2, 20⟩] [⟨2, 2, spellDefense, 2, 2, 15⟩]) calls s' ∧
      calls.length = 2 ∧ ∀ dice, s'.sendAction Engine.basicRules dice = .ok none := by
  obtain ⟨⟨calls, s'⟩, run, -⟩ := (Option.any_eq_true _ _).mp callsFor_petTurn
  obtain ⟨turn, length⟩ := calls_of_callsFor run
  exact ⟨calls, s', turn, length, ((sendAction_resolves _ _).2.2 calls s' turn).2 length⟩

/-- In the turn of the example a block is written and the packet is not sent. -/
lemma callsFor_stance :
    ((callsFor Engine.basicRules (evenSend 50) 1
        (petTurn [⟨3, 2, spellBasic, 2, 2, 20⟩, ⟨2, 2, spellDefense, 2, 2, 15⟩] [])).any fun run =>
      run.2.engine.pending = [] &&
        run.1.any fun call => (call.sent.log.any fun entry => entry.fate.isBlock) && !call.sent.broadcast) = true := by
  decide +kernel

/-- The player strikes its pet, which defends itself in the same list: the effects of the attack are not sent. -/
theorem not_turn_heeded :
    ¬∀ (rules : Rules) (s s' : Combat) (calls : List Call), Calls rules s calls s' → s'.engine.pending = [] →
      (logged calls).map BattleAction.key = s.engine.pending.map BattleAction.key ∧ AllSent calls ∧
        ∀ call ∈ calls, ∀ entry ∈ call.sent.log, entry.Justified := by
  intro heeded
  obtain ⟨⟨calls, s'⟩, run, checked⟩ := (Option.any_eq_true _ _).mp callsFor_stance
  rw [Bool.and_eq_true, decide_eq_true_eq, List.any_eq_true] at checked
  obtain ⟨resolved, call, mem, silent⟩ := checked
  rw [Bool.and_eq_true, List.any_eq_true, Bool.not_eq_true'] at silent
  obtain ⟨turn, -⟩ := calls_of_callsFor run
  have sent := (heeded _ _ _ _ turn resolved).2.1 call mem silent.1
  rw [silent.2] at sent
  cases sent

end Combat

end Legacy.Battle
