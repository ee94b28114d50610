import Mathlib

/-!
# Floods

A frame makes further frames (`next`) and leaves copies at receivers (`deliver`).
`flood next frames n` are the frames after `n` hops; a flood stops when there are
none left, and `copies` counts what a receiver got before that.

`Delivers next deliver frames count` says that the flood stops and that every
receiver has then got as many copies as `count` says. It is put together frame
by frame (`Delivers.of_next`) and list by list (`Delivers.append`). `DeliversOnce` is the
case where nobody gets two copies, because different frames reach different receivers. A set of
frames each of which makes another one of the set never stops
(`not_stops_of_closed`).
-/

set_option autoImplicit false

namespace Flood

universe u v

variable {Frame : Type u} {Receiver : Type v} [DecidableEq Receiver]

/-- The frames after a number of hops. -/
def flood (next : Frame → List Frame) (frames : List Frame) : Nat → List Frame
  | 0 => frames
  | n + 1 => flood next (frames.flatMap next) n

/-- The copies that the receiver gets from the frames of the first hops. -/
def copies (next : Frame → List Frame) (deliver : Frame → List Receiver) (frames : List Frame)
    (receiver : Receiver) : Nat → Nat
  | 0 => 0
  | n + 1 => (frames.flatMap deliver).count receiver +
      copies next deliver (frames.flatMap next) receiver n

/-- After some number of hops there are no frames left. -/
def Stops (next : Frame → List Frame) (frames : List Frame) : Prop :=
  ∃ n, flood next frames n = []

/-- The flood stops, and every receiver gets its count of copies. -/
def Delivers (next : Frame → List Frame) (deliver : Frame → List Receiver) (frames : List Frame)
    (count : Receiver → Nat) : Prop :=
  ∃ n, flood next frames n = [] ∧ ∀ receiver, copies next deliver frames receiver n = count receiver

variable {next : Frame → List Frame} {deliver : Frame → List Receiver} {frames frames' : List Frame}

@[simp] theorem flood_nil (n : Nat) : flood next [] n = [] := by
  induction n with
  | zero => rfl
  | succ n ih => exact ih

theorem flood_append (n : Nat) :
    flood next (frames ++ frames') n = flood next frames n ++ flood next frames' n := by
  induction n generalizing frames frames' with
  | zero => rfl
  | succ n ih => simp only [flood, List.flatMap_append, ih]

theorem copies_append (receiver : Receiver) (n : Nat) :
    copies next deliver (frames ++ frames') receiver n =
      copies next deliver frames receiver n + copies next deliver frames' receiver n := by
  induction n generalizing frames frames' with
  | zero => rfl
  | succ n ih =>
      simp only [copies, List.flatMap_append, List.count_append, ih]
      omega

/-- No copies are made without frames. -/
@[simp] theorem copies_nil (receiver : Receiver) (n : Nat) :
    copies next deliver [] receiver n = 0 := by
  induction n with
  | zero => rfl
  | succ n ih => simp [copies, ih]

/-- A flood that has stopped stays so. -/
theorem flood_of_le {n m : Nat} (stopped : flood next frames n = []) (le : n ≤ m) :
    flood next frames m = [] := by
  induction n generalizing frames m with
  | zero =>
      cases stopped
      exact flood_nil m
  | succ n ih =>
      obtain ⟨m, rfl⟩ : ∃ k, m = k + 1 := ⟨m - 1, by omega⟩
      rw [flood] at stopped ⊢
      exact ih stopped (Nat.le_of_succ_le_succ le)

/-- Once the flood has stopped no copies are added. -/
theorem copies_of_le {n m : Nat} (stopped : flood next frames n = []) (le : n ≤ m)
    (receiver : Receiver) :
    copies next deliver frames receiver m = copies next deliver frames receiver n := by
  induction n generalizing frames m with
  | zero =>
      cases stopped
      rw [copies_nil, copies_nil]
  | succ n ih =>
      obtain ⟨m, rfl⟩ : ∃ k, m = k + 1 := ⟨m - 1, by omega⟩
      rw [flood] at stopped
      rw [copies, copies, ih stopped (Nat.le_of_succ_le_succ le)]

namespace Delivers

variable {count count' : Receiver → Nat}

theorem stops (delivers : Delivers next deliver frames count) : Stops next frames :=
  delivers.imp fun _ => And.left

theorem nil : Delivers next deliver [] fun _ => 0 := ⟨0, rfl, fun _ => rfl⟩

theorem append (first : Delivers next deliver frames count)
    (second : Delivers next deliver frames' count') :
    Delivers next deliver (frames ++ frames') fun receiver => count receiver + count' receiver := by
  obtain ⟨n, stopped, counts⟩ := first
  obtain ⟨m, stopped', counts'⟩ := second
  refine ⟨max n m, ?_, fun receiver => ?_⟩
  · rw [flood_append, flood_of_le stopped (Nat.le_max_left n m),
      flood_of_le stopped' (Nat.le_max_right n m)]
    rfl
  · rw [copies_append, copies_of_le stopped (Nat.le_max_left n m),
      copies_of_le stopped' (Nat.le_max_right n m), counts, counts']

/-- One hop. -/
theorem of_flatMap (later : Delivers next deliver (frames.flatMap next) count) :
    Delivers next deliver frames fun receiver =>
      (frames.flatMap deliver).count receiver + count receiver := by
  obtain ⟨n, stopped, counts⟩ := later
  exact ⟨n + 1, stopped, fun receiver => by rw [copies, counts]⟩

/-- A frame delivers what it leaves at the receivers and what its frames deliver. -/
theorem of_next {frame : Frame} (later : Delivers next deliver (next frame) count) :
    Delivers next deliver [frame] fun receiver =>
      (deliver frame).count receiver + count receiver := by
  have hop : Delivers next deliver ([frame].flatMap next) count := by
    rwa [List.flatMap_singleton]
  have delivers := of_flatMap hop
  rwa [List.flatMap_singleton] at delivers

/-- A frame that makes no frames and leaves no copies. -/
theorem of_dropped {frame : Frame} (noNext : next frame = []) (noCopies : deliver frame = []) :
    Delivers next deliver [frame] fun _ => 0 := by
  have later : Delivers next deliver (next frame) fun _ => 0 := by
    rw [noNext]
    exact nil
  have delivers := of_next later
  rw [noCopies] at delivers
  simpa using delivers

end Delivers

/-! ## Single copies -/

/-- The flood stops, the receivers that are reached get one copy and the others none. -/
def DeliversOnce (next : Frame → List Frame) (deliver : Frame → List Receiver)
    (frames : List Frame) (reached : Receiver → Prop) : Prop :=
  ∃ count, Delivers next deliver frames count ∧
    ∀ receiver, (reached receiver → count receiver = 1) ∧ (¬ reached receiver → count receiver = 0)

namespace DeliversOnce

variable {reached reached' : Receiver → Prop}

theorem nil : DeliversOnce next deliver [] fun _ => False :=
  ⟨fun _ => 0, Delivers.nil, fun _ => ⟨False.elim, fun _ => rfl⟩⟩

theorem congr (delivers : DeliversOnce next deliver frames reached)
    (same : ∀ receiver, reached receiver ↔ reached' receiver) :
    DeliversOnce next deliver frames reached' := by
  have sets : reached = reached' := funext fun receiver => propext (same receiver)
  rwa [sets] at delivers

/-- Two floods that reach different receivers. -/
theorem append (first : DeliversOnce next deliver frames reached)
    (second : DeliversOnce next deliver frames' reached')
    (disjoint : ∀ receiver, reached receiver → ¬ reached' receiver) :
    DeliversOnce next deliver (frames ++ frames')
      fun receiver => reached receiver ∨ reached' receiver := by
  obtain ⟨count, delivers, once⟩ := first
  obtain ⟨count', delivers', once'⟩ := second
  refine ⟨_, delivers.append delivers', fun receiver => ⟨?_, ?_⟩⟩
  · intro either
    rcases either with here | there
    · rw [(once receiver).1 here, (once' receiver).2 (disjoint receiver here)]
    · rw [(once' receiver).1 there,
        (once receiver).2 fun here => disjoint receiver here there]
  · intro neither
    rw [(once receiver).2 fun here => neither (.inl here),
      (once' receiver).2 fun there => neither (.inr there)]

/-- The flood of a list whose frames reach different receivers. -/
theorem of_nodup {reaches : Frame → Receiver → Prop} (nodup : frames.Nodup)
    (each : ∀ frame ∈ frames, DeliversOnce next deliver [frame] (reaches frame))
    (disjoint : ∀ frame ∈ frames, ∀ frame' ∈ frames, ∀ receiver,
      reaches frame receiver → reaches frame' receiver → frame = frame') :
    DeliversOnce next deliver frames fun receiver => ∃ frame ∈ frames, reaches frame receiver := by
  induction frames with
  | nil => exact nil.congr fun receiver => ⟨False.elim, nofun⟩
  | cons frame rest ih =>
      rw [List.nodup_cons] at nodup
      have later := ih nodup.2 (fun other member => each other (List.mem_cons_of_mem _ member))
        fun one member two member' =>
          disjoint one (List.mem_cons_of_mem _ member) two (List.mem_cons_of_mem _ member')
      have both := (each frame List.mem_cons_self).append later ?_
      · exact both.congr fun receiver => by rw [List.exists_mem_cons_iff]
      · intro receiver here there
        obtain ⟨other, member, reached⟩ := there
        have same := disjoint frame List.mem_cons_self other (List.mem_cons_of_mem _ member)
          receiver here reached
        rw [same] at nodup
        exact nodup.1 member

/-- A frame reaches the receivers at which it leaves a copy and those that its frames
reach, when these are different receivers. -/
theorem of_next {reaches : Frame → Receiver → Prop} {frame : Frame}
    (nodup : (next frame).Nodup) (nodup' : (deliver frame).Nodup)
    (later : ∀ frame' ∈ next frame, DeliversOnce next deliver [frame'] (reaches frame'))
    (disjoint : ∀ one ∈ next frame, ∀ two ∈ next frame, ∀ receiver,
      reaches one receiver → reaches two receiver → one = two)
    (disjoint' : ∀ frame' ∈ next frame, ∀ receiver, reaches frame' receiver →
      receiver ∉ deliver frame) :
    DeliversOnce next deliver [frame] fun receiver =>
      receiver ∈ deliver frame ∨ ∃ frame' ∈ next frame, reaches frame' receiver := by
  obtain ⟨count, delivers, once⟩ := of_nodup nodup later disjoint
  refine ⟨_, Delivers.of_next delivers, fun receiver => ⟨?_, ?_⟩⟩
  · intro either
    by_cases here : receiver ∈ deliver frame
    · have notThere : ¬ ∃ frame' ∈ next frame, reaches frame' receiver := by
        intro there
        obtain ⟨frame', member, reached⟩ := there
        exact disjoint' frame' member receiver reached here
      rw [(once receiver).2 notThere, List.count_eq_one_of_mem nodup' here]
    · rw [(once receiver).1 (either.resolve_left here), List.count_eq_zero_of_not_mem here]
  · intro neither
    rw [(once receiver).2 fun there => neither (.inr there),
      List.count_eq_zero_of_not_mem fun here => neither (.inl here)]

end DeliversOnce

/-! ## Stopping -/

/-- A flood stops when it stops from each of its frames. -/
theorem stops_of_forall (each : ∀ frame ∈ frames, Stops next [frame]) : Stops next frames := by
  induction frames with
  | nil => exact ⟨0, rfl⟩
  | cons frame rest ih =>
      obtain ⟨n, stopped⟩ := each frame List.mem_cons_self
      obtain ⟨m, stopped'⟩ := ih fun other member => each other (List.mem_cons_of_mem _ member)
      refine ⟨max n m, ?_⟩
      have split : frame :: rest = [frame] ++ rest := rfl
      rw [split, flood_append, flood_of_le stopped (Nat.le_max_left n m),
        flood_of_le stopped' (Nat.le_max_right n m)]
      rfl

theorem stops_of_next {frame : Frame} (later : ∀ frame' ∈ next frame, Stops next [frame']) :
    Stops next [frame] := by
  obtain ⟨n, stopped⟩ := stops_of_forall later
  exact ⟨n + 1, by rwa [flood, List.flatMap_singleton]⟩

/-- **A closed set of frames never stops.** -/
theorem not_stops_of_closed (closed : Frame → Prop)
    (goesOn : ∀ frame, closed frame → ∃ frame' ∈ next frame, closed frame') {frame : Frame}
    (member : frame ∈ frames) (starts : closed frame) : ¬ Stops next frames := by
  rintro ⟨n, stopped⟩
  induction n generalizing frames frame with
  | zero =>
      cases stopped
      cases member
  | succ n ih =>
      obtain ⟨frame', present, starts'⟩ := goesOn frame starts
      exact ih (List.mem_flatMap.mpr ⟨frame, member, present⟩) starts' stopped

end Flood
