import Legacy.Chat.Commands
import Legacy.Wire.Requests
import Legacy.Battle.Change

/-!
# The assertions behind a packet

A chat packet goes through the assertions of `ChatHandler::ParseCommands`, an attack through that of
`WorldSession::HandlePlayerAttackOpcode` (`src/src/game/ChatHandler.cpp`, `CombatHandler.cpp`).
`noAssertion_iff` says which packets do not fail one: a text that is there, and an attacker that is.
-/

namespace Legacy.Chat
open Legacy.Lib Legacy.Wire Legacy.Battle

/-- Why the handling of a packet stops the server. -/
inductive Failure where
  /-- A read beyond the payload. -/
  | read (f : Wire.Fault)
  | assertion (a : Assertion)
  deriving DecidableEq, Repr

/-- A packet to one of the two handlers. -/
inductive Packet where
  | chat (data : ByteBuffer)
  | attack (data : ByteBuffer)
  deriving DecidableEq, Repr

/-- The C string of a `std::string`, which ends at the first zero byte. -/
def cString (s : List UInt8) : List UInt8 := s.takeWhile (· ≠ 0)

/-- The action of an attack packet. -/
def action (r : AttackRequest) : BattleAction := ⟨r.atk_col, r.atk_row, r.spell, r.tgt_col, r.tgt_row, 0⟩

section
variable {ι H : Type*}

/-- source `WorldSession::HandleMessagechatOpcode`, up to the command -/
def handleMessagechat (tables : ι → List (ChatCommand ι H)) (root : ι) (security : Nat) (data : ByteBuffer) :
    Except Failure (Option (Parsed ι H)) :=
  match readMessagechat data with
  | .error f => .error (.read f)
  | .ok (none, _) => .ok none
  | .ok (some r, _) =>
    match parseCommands tables root security (some (cString r.msg)) with
    | .error a => .error (.assertion a)
    | .ok parsed => .ok (some parsed)

/-- source `WorldSession::HandlePlayerAttackOpcode`, with its reads -/
def handlePlayerAttackOpcode (rules : Rules) (s : Combat) (p : Nat) (data : ByteBuffer) : Except Failure Combat :=
  match readAttack data with
  | .error f => .error (.read f)
  | .ok (none, _) => .ok s
  | .ok (some r, _) =>
    match s.handlePlayerAttack rules p (action r) with
    | .error _ => .error (.assertion .attacker)
    | .ok s => .ok s

/-- What a packet of player `p` does: the command that it runs, if any, and the battle after it. -/
def handle (tables : ι → List (ChatCommand ι H)) (root : ι) (security : Nat) (rules : Rules) (s : Combat) (p : Nat) :
    Packet → Except Failure (Option (Parsed ι H) × Combat)
  | .chat data => (handleMessagechat tables root security data).map fun parsed => (parsed, s)
  | .attack data => (handlePlayerAttackOpcode rules s p data).map fun s => (none, s)

/-- The text of a chat packet is there and does not begin with a zero byte; a unit of the battle, if the sender is
in one, stands in the cell that an attack names. -/
def Packet.Harmless (s : Combat) (p : Nat) : Packet → Prop
  | .chat data => ∀ r rest, readMessagechat data = .ok (some r, rest) → ∃ c, r.msg.head? = some c ∧ c ≠ 0
  | .attack data => ∀ r rest, readAttack data = .ok (some r, rest) → p ∈ s.engine.playerList →
      s.engine.getBattleUnit r.atk_col r.atk_row ≠ none

variable {tables : ι → List (ChatCommand ι H)} {root : ι} {security : Nat}

/-- A C string is empty when its first byte is a NUL or there is none. -/
lemma cString_ne_nil {s : List UInt8} : cString s ≠ [] ↔ ∃ c, s.head? = some c ∧ c ≠ 0 := by
  cases s with
  | nil => simp [cString]
  | cons c s => by_cases zero : c = 0 <;> simp [cString, zero]

/-- The parser of commands fails its assertion on an empty text, and on no other. -/
lemma parseCommands_assertion {text : List UInt8} {a : Assertion} :
    parseCommands tables root security (some text) = .error a ↔ text = [] ∧ a = .firstChar := by
  rw [parseCommands]
  split
  · next empty =>
    refine ⟨fun failed => ⟨empty, ?_⟩, fun failed => failed.2 ▸ rfl⟩
    exact (Except.error.inj failed).symm
  · next some =>
    refine iff_of_false (fun failed => ?_) fun failed => some failed.1
    split at failed
    · cases failed
    · cases failed

/-- The chat handler fails an assertion exactly if there is no text. -/
lemma handleMessagechat_assertion {data : ByteBuffer} {a : Assertion} :
    handleMessagechat tables root security data = .error (.assertion a) ↔
      a = .firstChar ∧ ∃ r rest, readMessagechat data = .ok (some r, rest) ∧ cString r.msg = [] := by
  rw [handleMessagechat]
  rcases reads : readMessagechat data with f | ⟨_ | r, rest⟩
  · simp
  · simp
  · have parsed : parseCommands tables root security (some (cString r.msg)) = .error a ↔ _ := parseCommands_assertion
    simp only
    split
    · next b failed =>
      rw [failed] at parsed
      simpa [and_comm] using parsed
    · next ok =>
      rw [ok] at parsed
      simpa [and_comm] using parsed

/-- A redirected self-target keeps its attacker. -/
lemma getAttacker_selfTarget (b : Engine) (action : BattleAction) :
    b.getAttacker action.selfTarget = b.getBattleUnit action.atkCol action.atkRow := by
  rw [BattleAction.selfTarget]
  split
  · rfl
  · rfl

/-- An attack packet has no result when its sender fights and names a cell without a unit. -/
lemma handlePlayerAttack_error {rules : Rules} {s : Combat} {p : Nat} {action : BattleAction} :
    (∃ halt, s.handlePlayerAttack rules p action = .error halt) ↔
      p ∈ s.engine.playerList ∧ s.engine.getBattleUnit action.atkCol action.atkRow = none := by
  rw [Combat.handlePlayerAttack, getAttacker_selfTarget]
  split
  · next away => exact iff_of_false (fun failed => by cases failed.choose_spec) fun failed => away failed.1
  · next present =>
    cases unit : s.engine.getBattleUnit action.atkCol action.atkRow with
    | none => exact iff_of_true ⟨_, rfl⟩ ⟨not_not.mp present, rfl⟩
    | some u =>
      refine iff_of_false (fun failed => ?_) fun failed => Option.some_ne_none u failed.2
      obtain ⟨halt, failed⟩ := failed
      simp only at failed
      split at failed
      · cases failed
      · cases failed

/-- The attack handler fails its assertion exactly if the cell of the attacker is empty. -/
lemma handlePlayerAttackOpcode_assertion {rules : Rules} {s : Combat} {p : Nat} {data : ByteBuffer} {a : Assertion} :
    handlePlayerAttackOpcode rules s p data = .error (.assertion a) ↔
      a = .attacker ∧ ∃ r rest, readAttack data = .ok (some r, rest) ∧ p ∈ s.engine.playerList ∧
        s.engine.getBattleUnit r.atk_col r.atk_row = none := by
  rw [handlePlayerAttackOpcode]
  rcases reads : readAttack data with f | ⟨_ | r, rest⟩
  · simp
  · simp
  · have failing : (∃ halt, s.handlePlayerAttack rules p (action r) = .error halt) ↔ _ := handlePlayerAttack_error
    simp only
    split
    · next halt failed =>
      have empty := failing.mp ⟨halt, failed⟩
      constructor
      · intro eq
        cases eq
        exact ⟨rfl, r, rest, rfl, empty⟩
      · rintro ⟨rfl, -⟩
        rfl
    · next s' done =>
      refine iff_of_false (fun eq => by cases eq) ?_
      rintro ⟨-, r', rest', same, empty⟩
      cases same
      obtain ⟨halt, failed⟩ := failing.mpr empty
      cases done.symm.trans failed

/-- A function that is mapped over a failure leaves it as it is. -/
lemma map_eq_error {α β : Type*} {x : Except Failure α} {f : α → β} {e : Failure} :
    x.map f = .error e ↔ x = .error e := by
  cases x with
  | error e' => exact ⟨fun eq => congrArg _ (Except.error.inj eq), fun eq => congrArg _ (Except.error.inj eq)⟩
  | ok a => exact iff_of_false (fun eq => by cases eq) fun eq => by cases eq

/-- A packet fails no assertion, whatever the state of the battle, exactly if it is harmless in that state. -/
theorem noAssertion_iff (tables : ι → List (ChatCommand ι H)) (root : ι) (security : Nat) (rules : Rules) (s : Combat)
    (p : Nat) (packet : Packet) :
    (∀ a, handle tables root security rules s p packet ≠ .error (.assertion a)) ↔ packet.Harmless s p := by
  cases packet with
  | chat data =>
    simp only [handle, ne_eq, map_eq_error, handleMessagechat_assertion, Packet.Harmless, ← cString_ne_nil]
    constructor
    · intro none r rest reads empty
      exact none .firstChar ⟨rfl, r, rest, reads, empty⟩
    · rintro text a ⟨-, r, rest, reads, empty⟩
      exact text r rest reads empty
  | attack data =>
    simp only [handle, ne_eq, map_eq_error, handlePlayerAttackOpcode_assertion, Packet.Harmless]
    constructor
    · intro none r rest reads present empty
      exact none .attacker ⟨rfl, r, rest, reads, present, empty⟩
    · rintro unit a ⟨-, r, rest, reads, present, empty⟩
      exact unit r rest reads present empty

end

/-- A line of chat without text: its type and nothing else. -/
def silentChat : ByteBuffer := ⟨[ByteBuffer.encodeByte 1], 0, 1⟩

/-- An attack from the empty cell in the corner. -/
def cornerAttack : ByteBuffer := ⟨[1, 0, 0, 0, 2, 0, 0].map ByteBuffer.encodeByte, 0, 7⟩

/-- What a packet does for player 1 of a battle, in a server without commands. -/
def handleDuel (s : Combat) (packet : Packet) : Except Failure (Option (Parsed (Option Empty) Empty) × Combat) :=
  handle (fun _ => []) none 0 Engine.basicRules s 1 packet

/-- Both packets are well sized, and each stops the server in the first state of a battle. -/
theorem not_noAssertion_duel :
    (¬∀ (s : Combat) (data : ByteBuffer), Combat.Runs Engine.basicRules (fun _ _ => True) (Combat.start Engine.duel) s →
      (∃ r, readMessagechat data = .ok r) → ∀ a, handleDuel s (.chat data) ≠ .error (.assertion a)) ∧
    ¬∀ (s : Combat) (data : ByteBuffer), Combat.Runs Engine.basicRules (fun _ _ => True) (Combat.start Engine.duel) s →
      (∃ r, readAttack data = .ok r) → ∀ a, handleDuel s (.attack data) ≠ .error (.assertion a) := by
  constructor
  · intro none
    exact none _ silentChat Reaches.refl ⟨_, rfl⟩ .firstChar rfl
  · intro none
    exact none _ cornerAttack Reaches.refl ⟨_, rfl⟩ .attacker rfl

end Legacy.Chat
