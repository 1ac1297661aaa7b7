import ReplicaSync.Proofs.Revision.Writing

/-!
# Whether numbers are given again

A write sees only the revisions that are kept. A server that writes again after all its revisions
have been dropped starts over at one, although it has given that number before. So the numbers of
each server rise along a run of writes exactly if whoever has written before and writes again is
still among the revisions kept, or is the current writer (`Lineage.Writes.rising_iff_kept`).
Where they rise, no revision comes twice; where they do not and the file was new at the start,
some revision does.
-/

set_option autoImplicit false

namespace ReplicaSync.Lineage

/-- Every revision has a number above those of its server before it. -/
def Rising (revisions : List Revision) : Prop :=
  revisions.Pairwise fun earlier later =>
    earlier.server = later.server → earlier.number < later.number

/-- A server that gave a number above zero is among the newest revisions. -/
def Shown (window : Nat) (revisions : List Revision) (server : String) : Prop :=
  (∃ earlier ∈ revisions, earlier.server = server ∧ 0 < earlier.number) →
    ∃ recent ∈ revisions.rtake window, recent.server = server

/-- The server of every revision is shown among those before it. -/
def Kept (window : Nat) (revisions : List Revision) : Prop :=
  ∀ before revision after, revisions = before ++ revision :: after →
    Shown window before revision.server

variable {window : Nat} {revisions : List Revision} {revision : Revision}

theorem rising_concat :
    Rising (revisions ++ [revision]) ↔ Rising revisions ∧
      ∀ earlier ∈ revisions, earlier.server = revision.server →
        earlier.number < revision.number := by
  rw [Rising, List.pairwise_append]
  simp [Rising]

theorem kept_concat :
    Kept window (revisions ++ [revision]) ↔
      Kept window revisions ∧ Shown window revisions revision.server := by
  constructor
  · intro kept
    refine ⟨fun before middle after split => ?_, kept revisions revision [] rfl⟩
    exact kept before middle (after ++ [revision]) (by rw [split, List.append_assoc]; rfl)
  · rintro ⟨kept, shown⟩ before middle after split
    rcases List.eq_nil_or_concat after with rfl | ⟨rest, last, rfl⟩
    · obtain ⟨rfl, same⟩ := List.append_inj' split rfl
      cases same
      exact shown
    · rw [List.concat_eq_append, ← List.cons_append, ← List.append_assoc] at split
      obtain ⟨shorter, -⟩ := List.append_inj' split rfl
      exact kept before middle rest shorter

theorem Rising.nodup (rising : Rising revisions) : revisions.Nodup := by
  refine List.Pairwise.imp ?_ rising
  rintro earlier later less rfl
  exact Int64.lt_irrefl (less rfl)

/-! ## One write -/

section Write

variable {lineage next : Lineage} {server : String} {retention : Retention}
variable (newest : lineage.revisions = revisions.rtake window)
variable (written : lineage.write server retention = .ok next)
include newest written

/-- A server that is not among the newest revisions starts over. -/
theorem number_eq_one_of_write
    (none_recent : ∀ recent ∈ revisions.rtake window, recent.server ≠ server) :
    next.current.number = 1 := by
  obtain ⟨-, is_one⟩ | ⟨number, shown, -⟩ := number_of_write written
  · exact is_one
  · rw [newest] at shown
    exact absurd rfl (none_recent _ shown)

/-- **The number of a write is above all before it exactly if the writer is still shown.** -/
theorem above_iff_shown_of_write (rising : Rising revisions) :
    (∀ earlier ∈ revisions, earlier.server = server → earlier.number < next.current.number) ↔
      Shown window revisions server := by
  constructor
  · rintro above ⟨earlier, member, same_server, positive⟩
    by_contra none_recent
    have is_one : next.current.number = 1 :=
      number_eq_one_of_write newest written fun recent listed same =>
        none_recent ⟨recent, listed, same⟩
    have less := above earlier member same_server
    rw [is_one] at less
    have still_one := eq_one_of_pos positive (Int64.le_of_lt less)
    rw [still_one] at less
    exact Int64.lt_irrefl less
  · rintro shown earlier member rfl
    have parts : revisions = revisions.rdrop window ++ revisions.rtake window :=
      (List.take_append_drop _ _).symm
    by_cases some_recent : ∃ recent ∈ revisions.rtake window, recent.server = earlier.server
    · obtain ⟨recent, listed, same_server⟩ := some_recent
      have recent_less : recent.number < next.current.number := by
        refine number_lt_of_write written ?_
        rw [newest, ← same_server]
        exact listed
      rw [parts, List.mem_append] at member
      rcases member with old | new
      · rw [parts, Rising, List.pairwise_append] at rising
        exact Int64.lt_trans (rising.2.2 earlier old recent listed same_server.symm) recent_less
      · refine number_lt_of_write written ?_
        rw [newest]
        exact new
    · have is_one : next.current.number = 1 :=
        number_eq_one_of_write newest written fun recent listed same =>
          some_recent ⟨recent, listed, same⟩
      have not_positive : ¬ 0 < earlier.number := fun positive =>
        some_recent (shown ⟨earlier, member, rfl, positive⟩)
      rw [is_one]
      exact Int64.lt_of_le_of_lt (Int64.not_lt.mp not_positive) (by decide)

/-- A number above one comes after a smaller one of the same server. -/
theorem one_mem_of_write
    (rooted : ∀ earlier ∈ revisions, 0 < earlier.number → ⟨earlier.server, 1⟩ ∈ revisions)
    (positive : 0 < next.current.number) :
    ⟨server, 1⟩ ∈ revisions ++ [next.current] := by
  obtain ⟨-, is_one⟩ | ⟨number, shown, successor⟩ := number_of_write written
  · rw [← is_one, ← server_of_write written]
    exact List.mem_append_right _ List.mem_cons_self
  · rw [newest] at shown
    have member : ⟨server, number⟩ ∈ revisions := List.mem_of_mem_drop shown
    by_cases above : 0 < number
    · exact List.mem_append_left _ (rooted _ member above)
    · have low : next.current.number ≤ 1 := by
        rw [pos_iff_toInt] at above
        rw [Int64.le_iff_toInt_le, Int64.toInt_one, successor]
        omega
      have is_one := eq_one_of_pos positive low
      rw [← is_one, ← server_of_write written]
      exact List.mem_append_right _ List.mem_cons_self

end Write

/-! ## A run of writes -/

namespace Writes

variable {retention : Retention} {origin : Revision} {passed : List Revision} {lineage : Lineage}

/-- What a run from a file without history shows are the newest revisions that it went through. -/
theorem revisions_eq (run : Writes retention ⟨origin, []⟩ passed lineage) :
    lineage.revisions = (passed ++ [lineage.current]).rtake (retention.limit.toNat + 1) := by
  have nothing : retention.apply [] = [] := List.drop_nil
  rw [rtake_append_current, Lineage.revisions, run.history_eq nothing]
  rfl

/-- A server that gave a number above zero gave the number one, if the file started at one. -/
theorem one_mem (run : Writes retention ⟨origin, []⟩ passed lineage) (low : origin.number ≤ 1) :
    ∀ revision ∈ passed ++ [lineage.current], 0 < revision.number →
      ⟨revision.server, 1⟩ ∈ passed ++ [lineage.current] := by
  induction run with
  | start =>
      intro revision member positive
      rw [List.mem_singleton.mp member] at positive ⊢
      have is_one : origin.number = 1 := eq_one_of_pos positive low
      rw [← is_one]
      exact List.mem_cons_self
  | write earlier written ih =>
      intro revision member positive
      rcases List.mem_append.mp member with old | new
      · exact List.mem_append_left _ (ih revision old positive)
      · rw [List.mem_singleton.mp new] at positive ⊢
        rw [server_of_write written]
        exact one_mem_of_write earlier.revisions_eq written ih positive

theorem rising_iff (run : Writes retention ⟨origin, []⟩ passed lineage) :
    Rising (passed ++ [lineage.current]) ↔
      Kept (retention.limit.toNat + 1) (passed ++ [lineage.current]) := by
  induction run with
  | start =>
      refine iff_of_true (List.pairwise_singleton _ _) ?_
      rintro (_ | ⟨first, rest⟩) revision after split ⟨earlier, member, -⟩
      · cases member
      · simp at split
  | write earlier written ih =>
      rw [rising_concat, kept_concat, ← ih, server_of_write written]
      exact and_congr_right (above_iff_shown_of_write earlier.revisions_eq written)

theorem kept_of_nodup (run : Writes retention ⟨origin, []⟩ passed lineage)
    (low : origin.number ≤ 1) (nodup : (passed ++ [lineage.current]).Nodup) :
    Kept (retention.limit.toNat + 1) (passed ++ [lineage.current]) := by
  induction run with
  | start => exact start.rising_iff.mp (List.pairwise_singleton _ _)
  | @write passed lineage next server earlier written ih =>
      obtain ⟨nodup_before, -, apart⟩ := List.nodup_append.mp nodup
      refine kept_concat.mpr ⟨ih nodup_before, ?_⟩
      rw [server_of_write written]
      rintro ⟨sooner, member, rfl, positive⟩
      by_contra none_recent
      -- the server starts over, and it gave the number one before
      have is_one : next.current.number = 1 :=
        number_eq_one_of_write earlier.revisions_eq written fun recent listed same =>
          none_recent ⟨recent, listed, same⟩
      have given : ⟨sooner.server, 1⟩ ∈ passed ++ [lineage.current] :=
        earlier.one_mem low sooner member positive
      refine apart _ given next.current List.mem_cons_self ?_
      rw [← is_one, ← server_of_write written]

/-- **The numbers of a run rise exactly if every writer that returns is still shown.** Then no
revision comes twice, and if the file started at one, only then. -/
theorem rising_iff_kept (run : Writes retention ⟨origin, []⟩ passed lineage) :
    (Rising (passed ++ [lineage.current]) ↔
        Kept (retention.limit.toNat + 1) (passed ++ [lineage.current])) ∧
      (Rising (passed ++ [lineage.current]) → (passed ++ [lineage.current]).Nodup) ∧
      (origin.number ≤ 1 → ((passed ++ [lineage.current]).Nodup ↔
        Kept (retention.limit.toNat + 1) (passed ++ [lineage.current]))) := by
  refine ⟨run.rising_iff, Rising.nodup, fun low => ⟨run.kept_of_nodup low, fun kept => ?_⟩⟩
  exact (run.rising_iff.mpr kept).nodup

/-- A file written on a server, then on another and again on the first, two revisions kept. -/
theorem rising_iff_kept_of_return :
    Writes ⟨1⟩ ⟨⟨"a", 1⟩, []⟩ [⟨"a", 1⟩, ⟨"b", 1⟩] ⟨⟨"a", 2⟩, [⟨"b", 1⟩]⟩ ∧
      Kept 2 [⟨"a", 1⟩, ⟨"b", 1⟩, ⟨"a", 2⟩] ∧
      [⟨"a", 1⟩, ⟨"b", 1⟩, (⟨"a", 2⟩ : Revision)].Nodup := by
  have first : Writes ⟨1⟩ ⟨⟨"a", 1⟩, []⟩ [⟨"a", 1⟩] ⟨⟨"b", 1⟩, [⟨"a", 1⟩]⟩ :=
    .write .start (rfl : Lineage.write _ "b" _ = _)
  have second : Writes ⟨1⟩ ⟨⟨"a", 1⟩, []⟩ [⟨"a", 1⟩, ⟨"b", 1⟩] ⟨⟨"a", 2⟩, [⟨"b", 1⟩]⟩ :=
    .write first (rfl : Lineage.write _ "a" _ = _)
  have kept := (rising_iff_kept second).1.mp (by unfold Rising; decide)
  exact ⟨second, kept, ((rising_iff_kept second).2.2 (by decide)).mpr kept⟩

/-- With one server more in between, the first server gives the number one again. -/
theorem number_given_again :
    Writes ⟨1⟩ ⟨⟨"a", 1⟩, []⟩ [⟨"a", 1⟩, ⟨"b", 1⟩, ⟨"c", 1⟩] ⟨⟨"a", 1⟩, [⟨"c", 1⟩]⟩ ∧
      ¬ [⟨"a", 1⟩, ⟨"b", 1⟩, ⟨"c", 1⟩, (⟨"a", 1⟩ : Revision)].Nodup := by
  have first : Writes ⟨1⟩ ⟨⟨"a", 1⟩, []⟩ [⟨"a", 1⟩] ⟨⟨"b", 1⟩, [⟨"a", 1⟩]⟩ :=
    .write .start (rfl : Lineage.write _ "b" _ = _)
  have second : Writes ⟨1⟩ ⟨⟨"a", 1⟩, []⟩ [⟨"a", 1⟩, ⟨"b", 1⟩] ⟨⟨"c", 1⟩, [⟨"b", 1⟩]⟩ :=
    .write first (rfl : Lineage.write _ "c" _ = _)
  exact ⟨.write second (rfl : Lineage.write _ "a" _ = _), by decide⟩

end Writes

end ReplicaSync.Lineage
