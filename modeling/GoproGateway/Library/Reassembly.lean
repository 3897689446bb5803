import GoproGateway.Library.InputMachine

/-! Reassembly of length-prefixed messages out of frames.

A start frame opens a message under a key and declares its total size; later frames carry
further chunks and no key of their own. The assembler holds one message at a time, so a new
start gives up whatever was unfinished. A pending message carries the proof that it still
lacks at least one cell.
-/

namespace Reassembly

variable {κ α : Type*}

/-- What an arriving frame says. `abandon` opens a message that cannot be stored. -/
inductive Frame (κ α : Type*) where
  | start (key : κ) (total : Nat) (chunk : List α)
  | more (chunk : List α)
  | abandon

/-- A message some of whose cells are still missing. -/
structure Pending (κ α : Type*) where
  key : κ
  total : Nat
  saved : List α
  incomplete : saved.length < total

/-- A complete message, under the key of its start frame. -/
structure Message (κ α : Type*) where
  key : κ
  body : List α
  deriving DecidableEq, Repr

/-- What becomes of the cells gathered so far: wait, deliver, or drop an overlong message. -/
def settle (key : κ) (total : Nat) (saved : List α)
    : Option (Pending κ α) × List (Message κ α) :=
  if incomplete : saved.length < total then
    (some { key, total, saved, incomplete }, [])
  else if saved.length = total ∧ 0 < total then
    (none, [{ key, body := saved }])
  else
    (none, [])

/-- One frame. Without a pending message further chunks are ignored. -/
def assemble (state : Option (Pending κ α))
    : Frame κ α → Option (Pending κ α) × List (Message κ α)
  | .start key total chunk => settle key total chunk
  | .more chunk =>
      match state with
      | none => (none, [])
      | some pending => settle pending.key pending.total (pending.saved ++ chunk)
  | .abandon => (none, [])

/-- The assembler as an input machine; its events are the delivered messages. -/
def assembler : InputMachine (Option (Pending κ α)) (Frame κ α) (Message κ α) where
  step := assemble

@[simp] theorem assembler_step (state : Option (Pending κ α)) (frame : Frame κ α)
    : assembler.step state frame = assemble state frame := rfl

theorem settle_incomplete {key : κ} {total : Nat} {saved : List α}
    (incomplete : saved.length < total)
    : settle key total saved = (some { key, total, saved, incomplete }, []) := by
  simp [settle, incomplete]

theorem settle_complete {key : κ} {total : Nat} {saved : List α}
    (size : saved.length = total) (positive : 0 < total)
    : settle key total saved = (none, [{ key, body := saved }]) := by
  simp [settle, size, positive]

theorem settle_overlong {key : κ} {total : Nat} {saved : List α}
    (overlong : total < saved.length)
    : settle key total saved = (none, []) := by
  simp [settle, show ¬ saved.length < total by omega, show saved.length ≠ total by omega]

theorem settle_zero {key : κ} {saved : List α} : settle key 0 saved = (none, []) := by
  simp [settle]

-----------------------------------------------------------------------------------------
-- A message cut into frames
-----------------------------------------------------------------------------------------

/-- A way to cut a non-empty message: a first chunk, which may be empty, and non-empty
further chunks.
-/
structure Framing (κ α : Type*) where
  key : κ
  first : List α
  rest : List (List α)
  rest_nonempty : ∀ chunk ∈ rest, chunk ≠ []
  nonempty : first ++ rest.flatten ≠ []

namespace Framing

def body (framing : Framing κ α) : List α := framing.first ++ framing.rest.flatten

def message (framing : Framing κ α) : Message κ α := ⟨framing.key, framing.body⟩

def frames (framing : Framing κ α) : List (Frame κ α) :=
  .start framing.key framing.body.length framing.first :: framing.rest.map .more

theorem body_length_pos (framing : Framing κ α) : 0 < framing.body.length :=
  List.length_pos_iff.mpr framing.nonempty

end Framing

/-- Non-empty chunks cannot be missing without their cells missing. -/
theorem flatten_length_pos {chunks : List (List α)} (nonempty : ∀ chunk ∈ chunks, chunk ≠ [])
    (some : chunks ≠ [])
    : 0 < chunks.flatten.length := by
  cases chunks with
  | nil => exact absurd rfl some
  | cons chunk rest =>
      have first := List.length_pos_iff.mpr (nonempty chunk (by simp))
      simp only [List.flatten_cons, List.length_append]
      omega

/-- Chunks that leave the message incomplete are only gathered. -/
theorem run_more_incomplete (pending : Pending κ α) (chunks : List (List α))
    (incomplete : (pending.saved ++ chunks.flatten).length < pending.total)
    : assembler.run (some pending) (chunks.map .more)
      = (some { pending with saved := pending.saved ++ chunks.flatten, incomplete }, []) := by
  induction chunks generalizing pending with
  | nil => simp
  | cons chunk rest ih =>
      simp only [List.flatten_cons, ← List.append_assoc] at incomplete ⊢
      have partly : (pending.saved ++ chunk).length < pending.total := by
        simp only [List.length_append] at incomplete ⊢
        omega
      simp only [List.map_cons, InputMachine.run_cons, assembler_step, assemble,
        settle_incomplete partly, List.nil_append]
      exact ih { pending with saved := pending.saved ++ chunk, incomplete := partly } incomplete

/-- The missing chunks complete a pending message on the last of them, by induction on the
chunks: every earlier one leaves cells missing because the later ones are non-empty.
-/
theorem run_more_complete (pending : Pending κ α) (chunks : List (List α))
    (nonempty : ∀ chunk ∈ chunks, chunk ≠ [])
    (size : (pending.saved ++ chunks.flatten).length = pending.total)
    : assembler.run (some pending) (chunks.map .more)
      = (none, [⟨pending.key, pending.saved ++ chunks.flatten⟩]) := by
  induction chunks generalizing pending with
  | nil =>
      have incomplete := pending.incomplete
      simp only [List.flatten_nil, List.append_nil] at size
      omega
  | cons chunk rest ih =>
      simp only [List.flatten_cons, ← List.append_assoc] at size ⊢
      simp only [List.map_cons, InputMachine.run_cons, assembler_step, assemble]
      by_cases last : rest = []
      · subst last
        simp only [List.flatten_nil, List.append_nil] at size ⊢
        have positive : 0 < pending.total := Nat.zero_lt_of_lt pending.incomplete
        simp [settle_complete size positive]
      · have later : ∀ chunk ∈ rest, chunk ≠ [] :=
          fun chunk member => nonempty chunk (List.mem_cons_of_mem _ member)
        have missing := flatten_length_pos later last
        have partly : (pending.saved ++ chunk).length < pending.total := by
          simp only [List.length_append] at size ⊢
          omega
        simp only [settle_incomplete partly, List.nil_append]
        exact ih { pending with saved := pending.saved ++ chunk, incomplete := partly } later size

theorem run_more_idle (chunks : List (List α))
    : assembler.run (none : Option (Pending κ α)) (chunks.map .more) = (none, []) := by
  induction chunks with
  | nil => rfl
  | cons chunk rest ih =>
      rw [List.map_cons, InputMachine.run_cons, assembler_step, assemble, ih]
      rfl

/-- Any chunks at all complete a pending message iff some first of them bring exactly what is
missing, and then these are what is delivered. Witness: induction on the chunks, by whether
the first one leaves cells missing, is the last one, or brings too many.
-/
theorem run_more_delivers (pending : Pending κ α) (chunks : List (List α))
    : (∃ seen, seen <+: chunks
        ∧ (pending.saved ++ seen.flatten).length = pending.total
        ∧ (assembler.run (some pending) (chunks.map .more)).2
          = [⟨pending.key, pending.saved ++ seen.flatten⟩])
      ∨ ((∀ seen, seen <+: chunks → (pending.saved ++ seen.flatten).length ≠ pending.total)
        ∧ (assembler.run (some pending) (chunks.map .more)).2 = []) := by
  induction chunks generalizing pending with
  | nil =>
      refine .inr ⟨?_, rfl⟩
      rintro seen none
      obtain rfl := List.prefix_nil.mp none
      simpa using Nat.ne_of_lt pending.incomplete
  | cons chunk rest ih =>
      simp only [List.map_cons, InputMachine.run_cons, assembler_step, assemble]
      rcases Nat.lt_trichotomy (pending.saved ++ chunk).length pending.total
        with missing | full | overlong
      · rw [settle_incomplete missing, List.nil_append]
        rcases ih { pending with saved := pending.saved ++ chunk, incomplete := missing }
          with ⟨seen, first, size, delivered⟩ | ⟨never, nothing⟩
        · refine .inl ⟨chunk :: seen, (List.prefix_cons_inj chunk).mpr first, ?_, ?_⟩
          · rw [List.flatten_cons, ← List.append_assoc]
            exact size
          · rw [List.flatten_cons, ← List.append_assoc]
            exact delivered
        · refine .inr ⟨?_, nothing⟩
          intro seen first
          rcases List.prefix_cons_iff.mp first with rfl | ⟨later, rfl, within⟩
          · simpa using Nat.ne_of_lt pending.incomplete
          · rw [List.flatten_cons, ← List.append_assoc]
            exact never later within
      · refine .inl ⟨[chunk], by simp, by simpa using full, ?_⟩
        rw [settle_complete full (Nat.zero_lt_of_lt pending.incomplete)]
        simp [run_more_idle]
      · refine .inr ⟨?_, by rw [settle_overlong overlong]; simp [run_more_idle]⟩
        intro seen first
        rcases List.prefix_cons_iff.mp first with rfl | ⟨later, rfl, -⟩
        · simpa using Nat.ne_of_lt pending.incomplete
        · rw [List.flatten_cons, ← List.append_assoc, List.length_append]
          omega

namespace Framing

/-- The frames of one message deliver exactly that message, whatever was pending before. -/
theorem run_frames (framing : Framing κ α) (state : Option (Pending κ α))
    : assembler.run state framing.frames = (none, [framing.message]) := by
  simp only [frames, InputMachine.run_cons, assembler_step, assemble]
  by_cases single : framing.rest = []
  · have size : framing.first.length = framing.body.length := by simp [body, single]
    rw [settle_complete size framing.body_length_pos]
    simp [single, message, body]
  · have missing := flatten_length_pos framing.rest_nonempty single
    have partly : framing.first.length < framing.body.length := by
      simp only [body, List.length_append]
      omega
    rw [settle_incomplete partly]
    have finished := run_more_complete
      ⟨framing.key, framing.body.length, framing.first, partly⟩
      framing.rest framing.rest_nonempty rfl
    rw [finished]
    rfl

/-- As long as some chunks of the message are outstanding, nothing is delivered and the
message stays pending.
-/
theorem run_unfinished (framing : Framing κ α) (state : Option (Pending κ α))
    {seen missing : List (List α)} (split : framing.rest = seen ++ missing)
    (outstanding : missing ≠ [])
    : ∃ pending,
        assembler.run state
          (.start framing.key framing.body.length framing.first :: seen.map .more)
          = (some pending, []) := by
  have later : ∀ chunk ∈ missing, chunk ≠ [] := fun chunk member =>
    framing.rest_nonempty chunk (by rw [split]; exact List.mem_append_right _ member)
  have lacking := flatten_length_pos later outstanding
  have total : framing.body.length
      = framing.first.length + seen.flatten.length + missing.flatten.length := by
    simp [body, split, Nat.add_assoc]
  have partly : framing.first.length < framing.body.length := by omega
  have incomplete : (framing.first ++ seen.flatten).length < framing.body.length := by
    simp only [List.length_append]
    omega
  simp only [InputMachine.run_cons, assembler_step, assemble, settle_incomplete partly]
  have gathered := run_more_incomplete
    ⟨framing.key, framing.body.length, framing.first, partly⟩ seen incomplete
  rw [gathered]
  exact ⟨_, rfl⟩

end Framing

-----------------------------------------------------------------------------------------
-- Each delivery uses up one start frame
-----------------------------------------------------------------------------------------

/-- Whether a frame opens a message. -/
def Frame.opens : Frame κ α → Bool
  | .start .. => true
  | .more _ | .abandon => false

theorem settle_accounts (key : κ) (total : Nat) (saved : List α)
    : (settle key total saved).2.length + (settle key total saved).1.toList.length ≤ 1 := by
  unfold settle
  split
  · simp
  · split <;> simp

/-- Messages delivered or still pending never outnumber the start frames and what was
pending at first. Witness: one step settles at most one message.
-/
theorem run_accounts (state : Option (Pending κ α)) (frames : List (Frame κ α))
    : (assembler.run state frames).2.length + (assembler.run state frames).1.toList.length
      ≤ frames.countP Frame.opens + state.toList.length := by
  induction frames generalizing state with
  | nil => simp
  | cons frame rest ih =>
      have later := ih (assemble state frame).1
      have step : (assemble state frame).2.length + (assemble state frame).1.toList.length
          ≤ (if frame.opens then 1 else 0) + state.toList.length := by
        cases frame with
        | start key total chunk =>
            have bound := settle_accounts key total chunk
            simp only [assemble, Frame.opens, if_true]
            omega
        | more chunk =>
            cases state with
            | none => simp [assemble, Frame.opens]
            | some pending =>
                simpa [assemble, Frame.opens]
                  using settle_accounts pending.key pending.total (pending.saved ++ chunk)
        | abandon => simp [assemble]
      simp only [InputMachine.run_cons, assembler_step, List.length_append, List.countP_cons]
      omega

@[simp] theorem countP_opens_more (chunks : List (List α))
    : (chunks.map (Frame.more (κ := κ))).countP Frame.opens = 0 := by
  simp [List.countP_map, List.countP_eq_zero, Frame.opens]

/-- A message's frames contain exactly one start frame. -/
theorem Framing.countP_opens (framing : Framing κ α)
    : framing.frames.countP Frame.opens = 1 := by
  rw [Framing.frames, List.countP_cons, countP_opens_more]
  rfl

/-- A start frame in the middle of a message costs a delivery: fewer messages come out than
were opened. Witness: the start frame gives up the pending message, so the run behind it
accounts for its own start frames only.
-/
theorem Framing.run_interrupted (framing : Framing κ α) (state : Option (Pending κ α))
    {seen missing : List (List α)} (split : framing.rest = seen ++ missing)
    (outstanding : missing ≠ []) (key : κ) (total : Nat) (chunk : List α)
    (later : List (Frame κ α))
    : (assembler.run state
        ((.start framing.key framing.body.length framing.first :: seen.map .more)
          ++ .start key total chunk :: later)).2.length
      < ((Frame.start framing.key framing.body.length framing.first :: seen.map Frame.more)
          ++ Frame.start key total chunk :: later).countP Frame.opens := by
  obtain ⟨pending, unfinished⟩ := framing.run_unfinished state split outstanding
  have restart : assembler.run (some pending) (.start key total chunk :: later)
      = assembler.run none (.start key total chunk :: later) := rfl
  have accounts := run_accounts none (.start key total chunk :: later)
  have opened : (Frame.start framing.key framing.body.length framing.first).opens = true := rfl
  simp only [Option.toList_none, List.length_nil] at accounts
  rw [InputMachine.run_append, unfinished, restart, List.countP_append, List.countP_cons,
    countP_opens_more, if_pos opened, List.nil_append]
  dsimp only
  omega

end Reassembly
