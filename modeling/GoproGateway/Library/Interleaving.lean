import GoproGateway.Library.Reassembly
import Mathlib.Data.List.Basic
import Mathlib.Logic.Function.Basic

/-! Several keyed streams of messages that share one assembler.

Each key sends its messages in order, cut into frames; the arrivals are any interleaving.
The shared assembler serves every key iff the frames of each message arrive back to back:
a frame of another stream in the middle of a message is a start frame the first time this
happens, and it costs the message under assembly.
-/

namespace Reassembly

variable {κ α φ : Type*} [DecidableEq κ]

/-- The entries of one key, in order. -/
def project (key : κ) (arrivals : List (κ × φ)) : List φ :=
  (arrivals.filter (fun entry => entry.1 = key)).map Prod.snd

/-- The bodies delivered under one key, in order. -/
def delivered (key : κ) (messages : List (Message κ α)) : List (List α) :=
  (messages.filter (fun message => message.key = key)).map Message.body

/-- A message's frames, each marked with the key it is sent under. -/
def Framing.tagged (framing : Framing κ α) : List (κ × Frame κ α) :=
  framing.frames.map (framing.key, ·)

/-- `arrivals` merges the streams: per key, exactly the frames of its messages in order. -/
structure Interleaves (streams : κ → List (Framing κ α)) (arrivals : List (κ × Frame κ α))
    : Prop where
  keyed : ∀ key, ∀ framing ∈ streams key, framing.key = key
  merged : ∀ key, project key arrivals = (streams key).flatMap Framing.frames

/-- The messages arrive one after the other, in some order that keeps each stream's own. -/
def BackToBack (streams : κ → List (Framing κ α)) (arrivals : List (κ × Frame κ α)) : Prop :=
  ∃ order : List (Framing κ α),
    arrivals = order.flatMap Framing.tagged
    ∧ ∀ key, order.filter (fun framing => framing.key = key) = streams key

@[simp] theorem project_nil (key : κ) : project key ([] : List (κ × φ)) = [] := rfl

theorem project_cons_same (key : κ) (entry : φ) (rest : List (κ × φ))
    : project key ((key, entry) :: rest) = entry :: project key rest := by
  simp [project]

theorem project_cons_other {key other : κ} (differs : other ≠ key) (entry : φ)
    (rest : List (κ × φ))
    : project key ((other, entry) :: rest) = project key rest := by
  simp [project, differs]

theorem project_append (key : κ) (before after : List (κ × φ))
    : project key (before ++ after) = project key before ++ project key after := by
  simp [project]

theorem project_marked_same (key : κ) (entries : List φ)
    : project key (entries.map (key, ·)) = entries := by
  induction entries with
  | nil => rfl
  | cons entry rest ih => rw [List.map_cons, project_cons_same, ih]

theorem project_marked_other {key other : κ} (differs : other ≠ key) (entries : List φ)
    : project key (entries.map (other, ·)) = [] := by
  induction entries with
  | nil => rfl
  | cons entry rest ih => rw [List.map_cons, project_cons_other differs, ih]

-----------------------------------------------------------------------------------------
-- Counting messages
-----------------------------------------------------------------------------------------

omit [DecidableEq κ] in
theorem countP_opens_flatMap (framings : List (Framing κ α))
    : (framings.flatMap Framing.frames).countP Frame.opens = framings.length := by
  induction framings with
  | nil => rfl
  | cons framing rest ih =>
      rw [List.flatMap_cons, List.countP_append, framing.countP_opens, ih, List.length_cons,
        Nat.add_comm]

/-- Keys of the start frames, one entry for each. -/
def openedKeys (arrivals : List (κ × Frame κ α)) : List κ :=
  (arrivals.filter (fun entry => entry.2.opens)).map Prod.fst

/-- A key occurs among the opened keys once for each start frame of its own stream. -/
theorem count_openedKeys (key : κ) (arrivals : List (κ × Frame κ α))
    : (openedKeys arrivals).count key = (project key arrivals).countP Frame.opens := by
  induction arrivals with
  | nil => rfl
  | cons entry rest ih =>
      obtain ⟨sender, frame⟩ := entry
      by_cases same : sender = key <;> cases opens : frame.opens <;>
        simp_all [openedKeys, project]

omit [DecidableEq κ] in
theorem length_openedKeys (arrivals : List (κ × Frame κ α))
    : (openedKeys arrivals).length = (arrivals.map Prod.snd).countP Frame.opens := by
  rw [openedKeys, List.length_map, ← List.countP_eq_length_filter, List.countP_map]
  rfl

/-- If every key gets as many messages as it sent, as many messages are delivered as start
frames arrived. Witness: the delivered keys are a permutation of the opened keys.
-/
theorem length_of_all_delivered {streams : κ → List (Framing κ α)}
    {arrivals : List (κ × Frame κ α)} {messages : List (Message κ α)}
    (interleaves : Interleaves streams arrivals)
    (every : ∀ key, (delivered key messages).length = (streams key).length)
    : messages.length = (arrivals.map Prod.snd).countP Frame.opens := by
  have counts : (messages.map Message.key).Perm (openedKeys arrivals) := by
    rw [List.perm_iff_count]
    intro key
    rw [count_openedKeys, interleaves.merged, countP_opens_flatMap, ← every key]
    simp only [delivered, List.length_map, ← List.countP_eq_length_filter, List.count,
      List.countP_map]
    exact List.countP_congr (by simp)
  rw [← length_openedKeys, ← counts.length_eq, List.length_map]

-----------------------------------------------------------------------------------------
-- Where the first foreign frame arrives
-----------------------------------------------------------------------------------------

/-- A stream's expected frames either arrive without a gap, or some frame of another key
arrives after only part of them.
-/
theorem gap_or_contiguous {key : κ} {arrivals : List (κ × φ)} {expected later : List φ}
    (merged : project key arrivals = expected ++ later)
    : (∃ tail, arrivals = expected.map (key, ·) ++ tail ∧ project key tail = later)
      ∨ ∃ seen missing other entry tail,
          expected = seen ++ missing
          ∧ missing ≠ []
          ∧ other ≠ key
          ∧ arrivals = seen.map (key, ·) ++ (other, entry) :: tail := by
  induction expected generalizing arrivals with
  | nil => exact Or.inl ⟨arrivals, rfl, merged⟩
  | cons head rest ih =>
      cases arrivals with
      | nil => simp at merged
      | cons arrival arrivals =>
          obtain ⟨sender, frame⟩ := arrival
          by_cases same : sender = key
          · subst same
            rw [project_cons_same, List.cons_append] at merged
            obtain ⟨rfl, remaining⟩ := List.cons.inj merged
            rcases ih remaining with ⟨tail, rfl, projected⟩
              | ⟨seen, missing, other, entry, tail, rfl, some, differs, rfl⟩
            · exact Or.inl ⟨tail, rfl, projected⟩
            · exact Or.inr ⟨frame :: seen, missing, other, entry, tail, rfl, some, differs, rfl⟩
          · exact Or.inr ⟨[], head :: rest, sender, frame, arrivals, rfl, by simp, same, rfl⟩

/-- A stream starts with a start frame. -/
theorem head_opens {streams : κ → List (Framing κ α)} {arrivals : List (κ × Frame κ α)}
    (interleaves : Interleaves streams arrivals) {key : κ} {frame : Frame κ α}
    {rest : List (Frame κ α)} (projected : project key arrivals = frame :: rest)
    : ∃ framing framings,
        streams key = framing :: framings
        ∧ frame = .start framing.key framing.body.length framing.first
        ∧ rest = framing.rest.map .more ++ framings.flatMap Framing.frames := by
  rw [interleaves.merged] at projected
  cases sent : streams key with
  | nil => simp [sent] at projected
  | cons framing framings =>
      rw [sent, List.flatMap_cons, Framing.frames, List.cons_append] at projected
      obtain ⟨rfl, rfl⟩ := List.cons.inj projected
      exact ⟨framing, framings, rfl, rfl, rfl⟩

omit [DecidableEq κ] in
/-- Back-to-back messages are delivered in their order of arrival, from any state. -/
theorem run_order (order : List (Framing κ α)) (state : Option (Pending κ α))
    : (assembler.run state ((order.flatMap Framing.tagged).map Prod.snd)).2
      = order.map Framing.message := by
  induction order generalizing state with
  | nil => rfl
  | cons framing rest ih =>
      have untagged : framing.tagged.map Prod.snd = framing.frames := by
        simp [Framing.tagged, Function.comp_def]
      simp only [List.flatMap_cons, List.map_append, untagged, InputMachine.run_append,
        framing.run_frames, ih, List.map_cons, List.singleton_append]

/-- Back-to-back arrival serves every key, whatever was pending. -/
theorem BackToBack.delivers {streams : κ → List (Framing κ α)}
    {arrivals : List (κ × Frame κ α)} (ordered : BackToBack streams arrivals)
    (state : Option (Pending κ α)) (key : κ)
    : delivered key (assembler.run state (arrivals.map Prod.snd)).2
      = (streams key).map Framing.body := by
  obtain ⟨order, rfl, kept⟩ := ordered
  rw [run_order, ← kept key]
  simp only [delivered, List.filter_map, List.map_map, Function.comp_def, Framing.message]
  rfl

/-- What remains of the streams after the first message of one key. -/
theorem Interleaves.tail {streams : κ → List (Framing κ α)} {framing : Framing κ α}
    {framings : List (Framing κ α)} {rest : List (κ × Frame κ α)}
    (interleaves : Interleaves streams (framing.tagged ++ rest))
    (sent : streams framing.key = framing :: framings)
    : Interleaves (Function.update streams framing.key framings) rest := by
  constructor
  · intro key later member
    by_cases same : key = framing.key
    · subst same
      rw [Function.update_self] at member
      exact interleaves.keyed _ later (by rw [sent]; exact List.mem_cons_of_mem _ member)
    · rw [Function.update_of_ne same] at member
      exact interleaves.keyed key later member
  · intro key
    have merged := interleaves.merged key
    rw [project_append, Framing.tagged] at merged
    by_cases same : key = framing.key
    · subst same
      rw [project_marked_same, sent, List.flatMap_cons] at merged
      rw [Function.update_self]
      exact List.append_cancel_left merged
    · rw [project_marked_other (Ne.symm same), List.nil_append] at merged
      rw [Function.update_of_ne same, merged]

/-- A foreign frame inside a message makes some key miss a message. Witness: the foreign
frame opens a message of its own, so the run delivers fewer messages than were opened.
-/
theorem gap_loses {streams : κ → List (Framing κ α)} {arrivals tail : List (κ × Frame κ α)}
    {framing : Framing κ α} {seen missing : List (Frame κ α)} {other : κ}
    {entry : Frame κ α} (interleaves : Interleaves streams arrivals)
    (state : Option (Pending κ α))
    (expected : framing.rest.map Frame.more = seen ++ missing) (some : missing ≠ [])
    (differs : other ≠ framing.key)
    (arrived : arrivals
      = (framing.key, .start framing.key framing.body.length framing.first)
        :: (seen.map (framing.key, ·) ++ (other, entry) :: tail))
    : ¬ ∀ key,
        delivered key (assembler.run state (arrivals.map Prod.snd)).2
        = (streams key).map Framing.body := by
  intro every
  have lengths (key : κ)
      : (delivered key (assembler.run state (arrivals.map Prod.snd)).2).length
        = (streams key).length := by
    rw [every key, List.length_map]
  have delivers := length_of_all_delivered interleaves lengths
  -- The foreign frame is the head of its own stream, hence a start frame.
  have head : project other arrivals = entry :: project other tail := by
    rw [arrived, project_cons_other (Ne.symm differs), project_append,
      project_marked_other (Ne.symm differs), List.nil_append, project_cons_same]
  obtain ⟨_, _, _, rfl, _⟩ := head_opens interleaves head
  obtain ⟨chunks, others, split, rfl, rfl⟩ := List.map_eq_append_iff.mp expected
  have fewer := framing.run_interrupted state split (by rintro rfl; exact some rfl)
  rw [arrived] at delivers
  simp only [List.map_cons, List.map_append, List.map_map, Function.comp_def] at delivers
  exact absurd delivers (Nat.ne_of_lt (fewer _ _ _ _))

/-- The shared assembler hands every key its own messages, in order and unchanged, iff the
messages arrive back to back. Witness: induction on the arrivals, message by message; the
first gap loses a message.
-/
theorem delivers_iff_backToBack {streams : κ → List (Framing κ α)}
    {arrivals : List (κ × Frame κ α)} (interleaves : Interleaves streams arrivals)
    (state : Option (Pending κ α))
    : (∀ key,
        delivered key (assembler.run state (arrivals.map Prod.snd)).2
        = (streams key).map Framing.body)
      ↔ BackToBack streams arrivals := by
  refine ⟨?_, fun ordered => ordered.delivers state⟩
  induction size : arrivals.length using Nat.strongRecOn
    generalizing arrivals streams state with
  | ind bound ih =>
  intro every
  cases arrivals with
  | nil =>
      refine ⟨[], rfl, fun key => ?_⟩
      have sent := every key
      simpa [delivered] using sent.symm
  | cons arrival rest =>
      obtain ⟨key, frame⟩ := arrival
      obtain ⟨framing, framings, sent, rfl, queued⟩ :=
        head_opens interleaves (project_cons_same key frame rest)
      have sameKey : framing.key = key := interleaves.keyed key framing (by simp [sent])
      subst sameKey
      rcases gap_or_contiguous queued with ⟨tail, rfl, _⟩
        | ⟨seen, missing, other, entry, tail, expected, some, differs, rfl⟩
      · have whole : (framing.key, Frame.start framing.key framing.body.length framing.first)
            :: ((framing.rest.map Frame.more).map (framing.key, ·) ++ tail)
            = framing.tagged ++ tail := rfl
        rw [whole] at interleaves every ⊢
        have untagged : framing.tagged.map Prod.snd = framing.frames := by
          simp [Framing.tagged, Function.comp_def]
        have later : ∀ key,
            delivered key (assembler.run none (tail.map Prod.snd)).2
            = (Function.update streams framing.key framings key).map Framing.body := by
          intro key
          have whole := every key
          rw [List.map_append, untagged, InputMachine.run_append, framing.run_frames] at whole
          by_cases same : key = framing.key
          · subst same
            rw [sent] at whole
            simpa [delivered, Framing.message, Function.update_self] using whole
          · rw [Function.update_of_ne same, ← whole]
            simp [delivered, Framing.message, Ne.symm same]
        obtain ⟨order, rfl, kept⟩ := ih tail.length (by
          rw [← size]; simp only [List.length_cons, List.length_append]; omega)
          (interleaves.tail sent) none rfl later
        refine ⟨framing :: order, rfl, fun key => ?_⟩
        by_cases same : framing.key = key
        · subst same
          simp [kept, sent]
        · simp [kept, same, Function.update_of_ne (Ne.symm same)]
      · exact absurd every (gap_loses interleaves state expected some differs rfl)

end Reassembly
