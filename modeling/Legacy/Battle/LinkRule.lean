import Legacy.Battle.Turn
import Legacy.Battle.Spell
import Legacy.Lib.Rounding

/-!
# The link rule

`CanLink` compares two agilities as `float`s: an agility, the configured tolerance and their sum are rounded to
24 bits. `linkedAgility` is that comparison, exact as long as no number has more bits
(`linkedAgility_exact`). `buildActions_linked` says what holds in each action list that `BuildActions` forms, and
`buildActions_linked_iff` for which queues the tolerance is kept in all of them.
-/

namespace Legacy.Battle
open Legacy.Lib

/-- An integer as a `float`. -/
def single (z : Int) : Int := roundBits 24 z

/-- The comparison of the agilities (source, the end of `BattleSystem::CanLink`). -/
def linkedAgility (rate agi1 agi2 : Int) : Bool :=
  let agi_min := single (single agi1 - single rate)
  let agi_max := single (single agi1 + single rate)
  !(decide (single agi2 < agi_min) || decide (agi_max < single agi2))

/-- The rules of a server with this tolerance (source `Rate.Linked.Agility`, which is read as an integer). -/
def linkRules (spellTemplate : Nat → Option SpellInfo) (rate : Int) : Rules := ⟨spellTemplate, linkedAgility rate⟩

/-- A float holds every integer up to 2 ^ 24. -/
lemma single_of_le {z : Int} (le : z.natAbs ≤ 2 ^ 24) : single z = z := roundBits_of_le (by decide) le

/-- The comparison is exact while all numbers have 24 bits. -/
lemma linkedAgility_exact {rate agi1 agi2 : Int} (fits : agi1.natAbs + rate.natAbs ≤ 2 ^ 24)
    (fits' : agi2.natAbs ≤ 2 ^ 24) :
    linkedAgility rate agi1 agi2 = true ↔ -rate ≤ agi1 - agi2 ∧ agi1 - agi2 ≤ rate := by
  have low : (agi1 - rate).natAbs ≤ 2 ^ 24 := by omega
  have high : (agi1 + rate).natAbs ≤ 2 ^ 24 := by omega
  rw [linkedAgility, single_of_le fits', single_of_le (Nat.le_trans (Nat.le_add_right _ _) fits),
    single_of_le (Nat.le_trans (Nat.le_add_left _ _) fits), single_of_le low, single_of_le high]
  simp only [Bool.not_eq_true', Bool.or_eq_false_iff, decide_eq_false_iff_not, Int.not_lt]
  omega

/-- The action has a template and can be linked (source `BattleAction::isLinkable`). -/
def Linkable (spellTemplate : Nat → Option SpellInfo) (action : BattleAction) : Prop :=
  ∃ sinfo, spellTemplate action.skill = some sinfo ∧ Engine.isLinkable action sinfo = true

/-- Two actions that were linked, with agilities related by `Within`. -/
structure Linked (spellTemplate : Nat → Option SpellInfo) (Within : Int → Int → Prop) (a a' : BattleAction) :
    Prop where
  attackers : a.atkCell ≠ a'.atkCell
  linkable : Linkable spellTemplate a
  linkable' : Linkable spellTemplate a'
  agility : Within a.agility a'.agility

/-- A group of linked actions. -/
structure LinkRule (spellTemplate : Nat → Option SpellInfo) (Within : Int → Int → Prop) (l : List BattleAction) :
    Prop where
  side : ∀ a ∈ l, ∀ a' ∈ l, isDefPos a.atkCol = isDefPos a'.atkCol
  target : ∀ a ∈ l, ∀ a' ∈ l, a.tgtCell = a'.tgtCell
  links : l.IsChain (Linked spellTemplate Within)

/-- The agilities link as `float`s, and differ by at most the tolerance if they and the sum have 24 bits. -/
def WithinRate (rate agi1 agi2 : Int) : Prop :=
  linkedAgility rate agi1 agi2 = true ∧
    (agi1.natAbs + rate.natAbs ≤ 2 ^ 24 → agi2.natAbs ≤ 2 ^ 24 → -rate ≤ agi1 - agi2 ∧ agi1 - agi2 ≤ rate)

/-- The agilities differ by at most the tolerance. -/
def Tolerated (rate agi1 agi2 : Int) : Prop := -rate ≤ agi1 - agi2 ∧ agi1 - agi2 ≤ rate

/-- The agilities link as `float`s, although they differ by more than the tolerance. -/
def Blurred (rate agi1 agi2 : Int) : Prop := linkedAgility rate agi1 agi2 = true ∧ ¬Tolerated rate agi1 agi2

/-- Numbers of 24 bits are not blurred. -/
lemma not_blurred {rate agi1 agi2 : Int} (fits : agi1.natAbs + rate.natAbs ≤ 2 ^ 24) (fits' : agi2.natAbs ≤ 2 ^ 24) :
    ¬Blurred rate agi1 agi2 := fun blurred => blurred.2 ((linkedAgility_exact fits fits').mp blurred.1)

/-- Neighbours in a list: linked, on one side and with one target. -/
structure Joined (spellTemplate : Nat → Option SpellInfo) (Within : Int → Int → Prop) (a a' : BattleAction) :
    Prop where
  side : isDefPos a.atkCol = isDefPos a'.atkCol
  target : a.tgtCell = a'.tgtCell
  linked : Linked spellTemplate Within a a'

/-- Neighbours in the queue that only their agilities can keep apart. -/
structure Candidates (spellTemplate : Nat → Option SpellInfo) (b : Engine) (dRoll : ℚ) (a a' : BattleAction) :
    Prop where
  side : isDefPos a.atkCol = isDefPos a'.atkCol
  target : a.tgtCell = a'.tgtCell
  attackers : a.atkCell ≠ a'.atkCell
  linkable : Linkable spellTemplate a
  linkable' : Linkable spellTemplate a'
  roll : ¬dRoll < 50 - (b.linkDiff a : ℚ)

namespace Engine

variable {spellTemplate : Nat → Option SpellInfo} {rate : Int} {b : Engine}

/-- A template is read where there is one. -/
lemma getProto_iff {rules : Rules} {action : BattleAction} {sinfo : SpellInfo} :
    getProto rules action = .ok sinfo ↔ rules.spellTemplate action.skill = some sinfo := by
  rw [getProto]
  cases rules.spellTemplate action.skill with
  | none =>
    refine iff_of_false (fun run => ?_) fun known => ?_
    · cases run
    · cases known
  | some info => rw [Except.ok.injEq, Option.some.injEq]

/-- Actions that can link are candidates whose agilities link, and the other way round. -/
lemma canLink_iff {dRoll : ℚ} {a a' : BattleAction} (side : isDefPos a.atkCol = isDefPos a'.atkCol) :
    canLink (linkRules spellTemplate rate) b dRoll a a' = .ok true ↔
      Candidates spellTemplate b dRoll a a' ∧ linkedAgility rate a.agility a'.agility = true := by
  constructor
  · intro run
    rw [canLink] at run
    obtain ⟨sinfo, proto, run⟩ := bind_eq_ok.mp run
    obtain ⟨sinfo', proto', run⟩ := bind_eq_ok.mp run
    have all := Except.ok.inj run
    simp only [Bool.and_eq_true, decide_eq_true_eq, Bool.not_eq_true', Bool.and_eq_false_iff,
      decide_eq_false_iff_not] at all
    obtain ⟨⟨⟨⟨⟨⟨col, row⟩, apart⟩, link⟩, link'⟩, roll⟩, agility⟩ := all
    refine ⟨⟨side, Prod.ext col row, ?_, ⟨sinfo, getProto_iff.mp proto, link⟩,
      ⟨sinfo', getProto_iff.mp proto', link'⟩, roll⟩, agility⟩
    intro same
    rcases apart with col | row
    · exact col (congrArg Prod.fst same)
    · exact row (congrArg Prod.snd same)
  · rintro ⟨⟨-, target, apart, ⟨sinfo, proto, link⟩, ⟨sinfo', proto', link'⟩, roll⟩, agility⟩
    have get : getProto (linkRules spellTemplate rate) a = .ok sinfo := getProto_iff.mpr proto
    have get' : getProto (linkRules spellTemplate rate) a' = .ok sinfo' := getProto_iff.mpr proto'
    have col : a.tgtCol = a'.tgtCol := congrArg Prod.fst target
    have row : a.tgtRow = a'.tgtRow := congrArg Prod.snd target
    have cells : ¬(a.atkCol = a'.atkCol ∧ a.atkRow = a'.atkRow) := fun same => apart (Prod.ext same.1 same.2)
    rw [canLink, get, ok_bind, get', ok_bind]
    refine congrArg Except.ok ?_
    simp only [Bool.and_eq_true, decide_eq_true_eq, Bool.not_eq_true', Bool.and_eq_false_iff,
      decide_eq_false_iff_not]
    exact ⟨⟨⟨⟨⟨⟨col, row⟩, not_and_or.mp cells⟩, link⟩, link'⟩, roll⟩, agility⟩

namespace Grouping

variable {g g' : Grouping} {R : BattleAction → BattleAction → Prop} {action : BattleAction}

/-- An action that links to the last one joins its list. -/
lemma pushBack_chains (chains : Chains R g.actions g.i_action g.lastAction) (link : ∀ x ∈ g.lastAction, R x action)
    (run : g.pushBack g.i_action action = .ok g') : Chains R g'.actions g'.i_action g'.lastAction := by
  rw [pushBack] at run
  split at run
  · cases run
    exact chains.same link
  · cases run

/-- Any action may open a list. -/
lemma pushNext_chains (chains : Chains R g.actions g.i_action g.lastAction) (run : g.pushNext action = .ok g') :
    Chains R g'.actions g'.i_action g'.lastAction := by
  rw [pushNext] at run
  split at run
  · next empty =>
    refine pushBack_chains chains (fun x mem => ?_) run
    have none := chains.last
    rw [List.isEmpty_iff.mp empty] at none
    rw [← none] at mem
    cases mem
  · rw [pushBack] at run
    split at run
    · cases run
      exact chains.next action
    · cases run

/-- What is appended to a list leaves its beginning. -/
lemma pushBack_grows {i : Nat} (run : g.pushBack i action = .ok g') (j : Nat) : g.actions j <+: g'.actions j := by
  rw [pushBack] at run
  split at run
  · cases run
    simp only
    rcases eq_or_ne j i with rfl | ne
    · rw [Function.update_self]
      exact List.prefix_append _ _
    · have kept := Function.update_of_ne ne (g.actions i ++ [action]) g.actions
      exact kept ▸ List.prefix_rfl
  · cases run

/-- A pushed action is the last one. -/
lemma pushBack_last {i : Nat} (run : g.pushBack i action = .ok g') : g'.lastAction = some action := by
  rw [pushBack] at run
  split at run
  · cases run
    rfl
  · cases run

/-- An action is appended to the list of the last one, to which it is linked, or to a list that it need not fit. -/
inductive Appended (spellTemplate : Nat → Option SpellInfo) (rate : Int) (b : Engine) (dRoll : ℚ) (g : Grouping)
    (action : BattleAction) (g' : Grouping) : Prop
  | linked {x} (last : g.lastAction = some x) (candidates : Candidates spellTemplate b dRoll x action)
      (agility : linkedAgility rate x.agility action.agility = true)
      (run : g.pushBack g.i_action action = .ok g')
  | apart (apart : ∀ x ∈ g.lastAction, Candidates spellTemplate b dRoll x action →
        linkedAgility rate x.agility action.agility = false)
      (run : g.lastAction = none ∧ g.pushBack g.i_action action = .ok g' ∨ g.pushNext action = .ok g')

/-- What the body of the loop does with an action. -/
lemma place_cases {dRoll : ℚ} (run : place (linkRules spellTemplate rate) b dRoll g action = .ok g') :
    Appended spellTemplate rate b dRoll g action g' := by
  rw [place] at run
  split at run
  · next other =>
    refine .apart (fun x last candidates => ?_) (.inr run)
    have same : sameSide g.lastAction action = true := by
      rw [Option.mem_def.mp last]
      exact decide_eq_true candidates.side
    rw [same] at other
    cases other
  · next side =>
    rw [Bool.not_eq_true, Bool.not_eq_false'] at side
    split at run
    · next first =>
      refine .apart (fun x last => ?_) (.inl ⟨first, run⟩)
      rw [first] at last
      cases last
    · next last isLast =>
      rw [isLast] at side
      have side := of_decide_eq_true side
      obtain ⟨linked, link, run⟩ := bind_eq_ok.mp run
      cases linked with
      | true =>
        obtain ⟨candidates, agility⟩ := (canLink_iff side).mp link
        exact .linked isLast candidates agility run
      | false =>
        refine .apart (fun x mem candidates => ?_) (.inr run)
        rw [isLast] at mem
        cases mem
        refine Bool.eq_false_of_not_eq_true fun agility => ?_
        have accepted := link.symm.trans ((canLink_iff side).mpr ⟨candidates, agility⟩)
        cases accepted

/-- The lists only grow. -/
lemma Appended.grows {dRoll : ℚ} (placed : Appended spellTemplate rate b dRoll g action g') (j : Nat) :
    g.actions j <+: g'.actions j := by
  cases placed with
  | linked last candidates agility run => exact pushBack_grows run j
  | apart apart run =>
    rcases run with ⟨-, run⟩ | run
    · exact pushBack_grows run j
    · rw [pushNext] at run
      split at run
      · exact pushBack_grows run j
      · exact pushBack_grows run j

/-- An appended action is the last one. -/
lemma Appended.last {dRoll : ℚ} (placed : Appended spellTemplate rate b dRoll g action g') :
    g'.lastAction = some action := by
  cases placed with
  | linked last candidates agility run => exact pushBack_last run
  | apart apart run =>
    rcases run with ⟨-, run⟩ | run
    · exact pushBack_last run
    · rw [pushNext] at run
      split at run
      · exact pushBack_last run
      · exact pushBack_last run

/-- The loop never takes an action out of a list. -/
lemma placeAll_grows {queue : List BattleAction} {link : Nat → ℚ}
    (run : placeAll (linkRules spellTemplate rate) b link g queue = .ok g') (j : Nat) :
    g.actions j <+: g'.actions j := by
  induction queue generalizing link g with
  | nil =>
    cases run
    exact List.prefix_rfl
  | cons action queue ih =>
    obtain ⟨g₁, placed, run⟩ := bind_eq_ok.mp run
    exact ((place_cases placed).grows j).trans (ih run)

/-- The lists stay joined exactly when all neighbours of the queue that link have agilities related by `Within`. -/
lemma placeAll_joined_iff {queue : List BattleAction} {link : Nat → ℚ} {Within : Int → Int → Prop}
    (chains : Chains (Joined spellTemplate Within) g.actions g.i_action g.lastAction)
    (run : placeAll (linkRules spellTemplate rate) b link g queue = .ok g') :
    (∀ i, (g'.actions i).IsChain (Joined spellTemplate Within)) ↔
      Rolled (fun dRoll a a' => Candidates spellTemplate b dRoll a a' →
        linkedAgility rate a.agility a'.agility = true → Within a.agility a'.agility) link g.lastAction queue := by
  induction queue generalizing link g with
  | nil =>
    cases run
    exact iff_of_true chains.chain trivial
  | cons action queue ih =>
    obtain ⟨g₁, placed, run⟩ := bind_eq_ok.mp run
    have step := place_cases placed
    rw [Rolled, ← step.last]
    cases step with
    | @linked x last candidates agility push =>
      by_cases within : Within x.agility action.agility
      · have joined : Joined spellTemplate Within x action := ⟨candidates.side, candidates.target,
          candidates.attackers, candidates.linkable, candidates.linkable', within⟩
        have chains₁ := pushBack_chains chains (fun y mem => by
          rw [last] at mem
          cases mem
          exact joined) push
        rw [ih chains₁ run]
        refine (and_iff_right fun y mem => ?_).symm
        rw [last] at mem
        cases mem
        exact fun _ _ => within
      · -- the two neighbours stay in their list
        refine iff_of_false (fun chain => within ?_) fun rolled => within (rolled.1 x last candidates agility)
        have grown : g.actions g.i_action ++ [action] <+: g'.actions g.i_action := by
          have kept := placeAll_grows run g.i_action
          rw [pushBack] at push
          split at push
          · cases push
            simp only [Function.update_self] at kept
            exact kept
          · cases push
        have whole := chain g.i_action
        obtain ⟨later, eq⟩ := grown
        rw [← eq] at whole
        obtain ⟨-, -, neighbours⟩ := List.isChain_append.mp whole.left_of_append
        exact (neighbours x (chains.last.trans last) action rfl).linked.agility
    | apart apart push =>
      have chains₁ : Chains (Joined spellTemplate Within) g₁.actions g₁.i_action g₁.lastAction := by
        rcases push with ⟨first, push⟩ | push
        · refine pushBack_chains chains (fun y mem => ?_) push
          rw [first] at mem
          cases mem
        · exact pushNext_chains chains push
      rw [ih chains₁ run]
      refine (and_iff_right fun x mem candidates agility => ?_).symm
      rw [apart x mem candidates] at agility
      cases agility

end Grouping

/-- A list is joined exactly if it is a group of linked actions. -/
lemma linkRule_iff {Within : Int → Int → Prop} {l : List BattleAction} :
    LinkRule spellTemplate Within l ↔ l.IsChain (Joined spellTemplate Within) := by
  constructor
  · rintro ⟨side, target, links⟩
    refine links.imp_of_mem_imp fun a a' mem mem' linked => ?_
    exact ⟨side a mem a' mem', target a mem a' mem', linked⟩
  · intro chain
    exact ⟨fun a mem a' mem' => eq_of_isChain (fun _ _ joined => joined.side) chain mem mem',
      fun a mem a' mem' => eq_of_isChain (fun _ _ joined => joined.target) chain mem mem',
      chain.imp fun _ _ joined => joined.linked⟩

/-- The queue in the order of its agilities (source `m_unitTurn.sort(compare_agility)`). -/
abbrev sortedTurn (b : Engine) : List BattleAction := b.unitTurn.insertionSort fun a a' => a'.agility ≤ a.agility

/-- The lists that `BuildActions` forms are linked within `Within` exactly when the neighbours of the sorted queue
that link are. -/
lemma linkRule_buildActions_iff {dice : TurnDice} {b' b'' : Engine} (Within : Int → Int → Prop)
    (moved : aiMove (linkRules spellTemplate rate) dice b.clearTurn = .ok b')
    (run : buildActions (linkRules spellTemplate rate) dice b = .ok b'') :
    (∀ i, LinkRule spellTemplate Within (b''.actions i)) ↔
      ∀ k a a', b'.sortedTurn[k]? = some a → b'.sortedTurn[k + 1]? = some a' →
        Candidates spellTemplate b' (dice.link (k + 1)) a a' → linkedAgility rate a.agility a'.agility = true →
          Within a.agility a'.agility := by
  rw [buildActions, moved, ok_bind] at run
  obtain ⟨g, placed, run⟩ := bind_eq_ok.mp run
  obtain ⟨q, queue⟩ := aiMove_queue moved
  cases run
  have start : Chains (Joined spellTemplate Within) b'.actions 0 none := by
    rw [queue]
    exact Chains.nil _ 0
  simp only [linkRule_iff]
  rw [Grouping.placeAll_joined_iff start placed, rolled_iff]

/-- Each list that `BuildActions` forms is a group of linked actions. -/
theorem buildActions_linked {dice : TurnDice} {b'' : Engine}
    (run : buildActions (linkRules spellTemplate rate) dice b = .ok b'') (i : Nat) :
    LinkRule spellTemplate (WithinRate rate) (b''.actions i) := by
  obtain ⟨b', moved, -⟩ := bind_eq_ok.mp run
  refine (linkRule_buildActions_iff (WithinRate rate) moved run).mpr (fun k a a' _ _ _ agility => ?_) i
  exact ⟨agility, fun fits fits' => (linkedAgility_exact fits fits').mp agility⟩

/-- The actions of a list differ by at most the tolerance exactly when no candidates among the neighbours of the
sorted queue have agilities that the comparison blurs. -/
theorem buildActions_linked_iff {dice : TurnDice} {b' b'' : Engine}
    (moved : aiMove (linkRules spellTemplate rate) dice b.clearTurn = .ok b')
    (run : buildActions (linkRules spellTemplate rate) dice b = .ok b'') :
    (∀ i, LinkRule spellTemplate (Tolerated rate) (b''.actions i)) ↔
      ∀ k a a', b'.sortedTurn[k]? = some a → b'.sortedTurn[k + 1]? = some a' →
        Candidates spellTemplate b' (dice.link (k + 1)) a a' → ¬Blurred rate a.agility a'.agility := by
  rw [linkRule_buildActions_iff (Tolerated rate) moved run]
  simp only [Blurred, not_and, not_not]

/-- Two units strike the same cell, with these agilities. -/
def linkTurn (agi1 agi2 : Int) : Engine := { duel with
  m_battleUnit := fun _ => none
  unitTurn := [⟨3, 2, spellBasic, 0, 2, agi1⟩, ⟨2, 2, spellBasic, 0, 2, agi2⟩] }

/-- Agilities that differ by ten are linked at the rate ten. -/
lemma buildActions_linkTurn :
    Sat (buildActions (linkRules basicRules.spellTemplate 10) (evenDice 70) (linkTurn 30 20)) fun b =>
      b.actions 0 = [⟨3, 2, spellBasic, 0, 2, 30⟩, ⟨2, 2, spellBasic, 0, 2, 20⟩] := by
  decide +kernel

/-- Two actions are linked. -/
theorem buildActions_linked_turn :
    ∃ b' b, aiMove (linkRules basicRules.spellTemplate 10) (evenDice 70) (linkTurn 30 20).clearTurn = .ok b' ∧
      buildActions (linkRules basicRules.spellTemplate 10) (evenDice 70) (linkTurn 30 20) = .ok b ∧
      (b.actions 0).length = 2 ∧ ∀ i, LinkRule basicRules.spellTemplate (Tolerated 10) (b.actions i) := by
  obtain ⟨b, run, actions⟩ := sat_iff.mp buildActions_linkTurn
  obtain ⟨b', moved, turn⟩ : ∃ b', aiMove (linkRules basicRules.spellTemplate 10) (evenDice 70)
      (linkTurn 30 20).clearTurn = .ok b' ∧ b'.unitTurn = (linkTurn 30 20).unitTurn :=
    sat_iff.mp (by decide +kernel)
  refine ⟨b', b, moved, run, congrArg List.length actions, (buildActions_linked_iff moved run).mpr ?_⟩
  intro k a a' here next _
  have small : ∀ x ∈ b'.sortedTurn, x.agility.natAbs ≤ 30 := by
    rw [sortedTurn, turn]
    decide
  have first := small a (List.mem_of_getElem? here)
  have second := small a' (List.mem_of_getElem? next)
  exact not_blurred (by omega) (by omega)

/-- Agilities that differ by six are linked at the rate five, once a float rounds them. -/
lemma buildActions_wideTurn :
    Sat (buildActions (linkRules basicRules.spellTemplate 5) (evenDice 70) (linkTurn 33554437 33554431)) fun b =>
      b.actions 0 = [⟨3, 2, spellBasic, 0, 2, 33554437⟩, ⟨2, 2, spellBasic, 0, 2, 33554431⟩] := by
  decide +kernel

/-- Agilities of 26 bits are linked although they differ by more than the tolerance. -/
theorem not_buildActions_linked :
    ¬∀ (spellTemplate : Nat → Option SpellInfo) (rate : Int) (dice : TurnDice) (b b' b'' : Engine),
      aiMove (linkRules spellTemplate rate) dice b.clearTurn = .ok b' → b'.unitTurn.length ≤ actionLists →
        buildActions (linkRules spellTemplate rate) dice b = .ok b'' → ∀ i,
          LinkRule spellTemplate (Tolerated rate) (b''.actions i) := by
  intro linked
  obtain ⟨b, run, actions⟩ := sat_iff.mp buildActions_wideTurn
  obtain ⟨b', moved, few⟩ : ∃ b', aiMove (linkRules basicRules.spellTemplate 5) (evenDice 70)
      (linkTurn 33554437 33554431).clearTurn = .ok b' ∧ b'.unitTurn.length ≤ actionLists :=
    sat_iff.mp (by decide +kernel)
  have links := (linked _ _ _ _ b' b moved few run 0).links
  rw [actions, List.isChain_pair] at links
  have far : ¬Tolerated 5 33554437 33554431 := by
    rw [Tolerated]
    decide
  exact far links.agility

end Engine

end Legacy.Battle
