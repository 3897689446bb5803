import GoproGateway.Reply.Ownership

/-! When the reply token is kept.

Two error paths forget it: `can_reply` without memory, and `isotp_tx_thread` when
`isotp_send` does not accept the packet. Every other path passes it on.
-/

namespace GoproGateway

namespace ReplyState

/-- The token is accounted for: it is somewhere, and when nothing is going on it is available
and nothing is allocated.
-/
structure TokenKept (s : ReplyState) : Prop where
  token : s.canReplySem = 1 ∨ (∃! thread, (s.calls thread).Holds) ∨ ∃ pkt, s.underway = [pkt]
  idle : (∀ thread, s.calls thread = .returned) → s.underway = []
    → s.canReplySem = 1 ∧ s.live = []

/-- Steps that do not take one of the two forgetful paths. -/
def KeepsToken (s : ReplyState) : ReplyInput → Prop
  | .malloc thread none => s.calls thread ≠ .semTaken
  | .isotpSend false => s.txPkt = none
  | _ => True

variable {s : ReplyState} {owner : Owner}

/-- Some owner has the token. -/
def Kept (s : ReplyState) : Prop :=
  ∃ owner, s.OwnedBy owner ∧ ∀ leaked, owner ≠ .lost leaked

theorem boot_kept : boot.Kept := ⟨.available, boot_ownedBy, nofun⟩

/-- A lost token is nowhere to be found. -/
theorem OwnedBy.not_tokenKept {leaked : Option HeapBuffer} (owned : s.OwnedBy (.lost leaked))
    : ¬s.TokenKept := by
  intro kept
  rcases kept.token with available | ⟨thread, holds, -⟩ | ⟨pkt, single⟩
  · rw [owned.sem] at available
    exact absurd available (by simp [Owner.count])
  · cases (owned.calls thread).mp holds
  · rw [owned.underway] at single
    cases single

/-- A token with an owner is accounted for. -/
theorem OwnedBy.tokenKept (owned : s.OwnedBy owner) (kept : ∀ leaked, owner ≠ .lost leaked)
    : s.TokenKept := by
  constructor
  · cases owner with
    | available => exact .inl owned.sem
    | call thread =>
        refine .inr (.inl ⟨thread, (owned.calls thread).mpr rfl, ?_⟩)
        intro other holds
        cases (owned.calls other).mp holds
        rfl
    | packet pkt => exact .inr (.inr ⟨pkt, owned.underway⟩)
    | lost leaked => exact absurd rfl (kept leaked)
  · intro returned settled
    cases owner with
    | available =>
        obtain ⟨queue, tx, flight, -⟩ := underway_eq_nil.mp settled
        refine ⟨owned.sem, ?_⟩
        simpa [heldBuffer, outstanding, queue, tx, flight] using owned.live
    | call thread =>
        have holds := (owned.calls thread).mpr rfl
        rw [returned thread] at holds
        cases holds
    | packet pkt =>
        rw [owned.underway] at settled
        cases settled
    | lost leaked => exact absurd rfl (kept leaked)

/-- A token that is kept is lost by the two forgetful paths only. -/
theorem nextOwner_kept_iff (input : ReplyInput) (kept : ∀ leaked, owner ≠ .lost leaked)
    : (∀ leaked, s.nextOwner owner input ≠ .lost leaked) ↔ s.KeepsToken input := by
  cases input with
  | canReply | encode | free | waitMsg | isotpsendCallback => exact iff_of_true kept trivial
  | semTake thread =>
      refine iff_of_true ?_ trivial
      simp only [nextOwner]
      split
      · simp
      · exact kept
  | malloc thread buffer =>
      cases buffer with
      | some buffer => exact iff_of_true kept trivial
      | none =>
          simp only [nextOwner, KeepsToken]
          split
          case isTrue taken => exact iff_of_false (fun every => every none rfl) (· taken)
          case isFalse other => exact iff_of_true kept other
  | publish thread ok =>
      cases ok with
      | false => exact iff_of_true kept trivial
      | true =>
          refine iff_of_true ?_ trivial
          simp only [nextOwner]
          split
          · simp
          · exact kept
  | semGive thread =>
      refine iff_of_true ?_ trivial
      simp only [nextOwner]
      split
      · simp
      · exact kept
  | isotpSend ok =>
      cases ok with
      | true => exact iff_of_true kept trivial
      | false =>
          cases tx : s.txPkt with
          | none => simpa [nextOwner, KeepsToken, tx] using kept
          | some pkt => simp [nextOwner, KeepsToken, tx]
  | callbackGive =>
      refine iff_of_true ?_ trivial
      simp only [nextOwner]
      split
      · exact kept
      · simp

/-- A token that is kept is accounted for after a step iff the step keeps it. -/
theorem step_tokenKept_iff (input : ReplyInput) (kept : s.Kept)
    : (s.step input).1.TokenKept ↔ s.KeepsToken input := by
  obtain ⟨owner, owned, ownerKept⟩ := kept
  rw [← nextOwner_kept_iff input ownerKept]
  have next := step_ownedBy input owned
  constructor
  · intro after leaked lost
    rw [lost] at next
    exact next.not_tokenKept after
  · exact next.tokenKept

theorem step_kept (input : ReplyInput) (kept : s.Kept) (keeps : s.KeepsToken input)
    : (s.step input).1.Kept := by
  obtain ⟨owner, owned, ownerKept⟩ := kept
  exact ⟨_, step_ownedBy input owned, (nextOwner_kept_iff input ownerKept).mpr keeps⟩

end ReplyState

open ReplyState

/-- In every run, the token is never lost iff no step takes a forgetful path. -/
theorem replyMachine_token_iff (inputs : List ReplyInput)
    : replyMachine.Always TokenKept .boot inputs
      ↔ replyMachine.Along KeepsToken .boot inputs := by
  have initial : TokenKept .boot := boot_ownedBy.tokenKept nofun
  have every : ∀ input ∈ inputs, True := fun _ _ => trivial
  rw [InputMachine.always_iff, and_iff_right initial]
  refine InputMachine.along_congr Kept ?_ ?_ boot_kept every
  · intro s input kept _ keeps
    exact step_kept input kept keeps
  · intro s input kept _
    exact step_tokenKept_iff input kept

/-- Witness: one call without memory; it is over, and the next call finds no token. -/
theorem replyMachine_forgets_token
    : let inputs : List ReplyInput := [.canReply 0 5, .semTake 0, .malloc 0 none]
      ¬replyMachine.Always TokenKept .boot inputs
        ∧ (replyMachine.run .boot (inputs ++ [.canReply 1 5, .semTake 1])).2
          = [.returned 0 (-enomem), .returned 1 (-einval)] := by
  refine ⟨?_, by decide⟩
  intro every
  have kept := every [.canReply 0 5, .semTake 0, .malloc 0 none] [] rfl
  have returned (thread : Thread)
      : (replyMachine.run .boot [.canReply 0 5, .semTake 0, .malloc 0 none]).1.calls thread
        = .returned := by
    simp [replyMachine, step, boot, workBuffSize, semTake, malloc, setCall]
  exact absurd (kept.idle returned rfl).1 (by decide)

end GoproGateway
