import Legacy.Lib.Runs
import Legacy.Sql.ValueText

/-!
# The tokens of a text

`StrSplit` (`src/src/shared/Util.cpp`) goes over a text once, with the token that it is reading. `strSplit_runs` says
that it returns the maximal runs of characters that are no separators.
-/

namespace Legacy.Util
open Legacy.Lib Legacy.Sql

variable {src sep before s after : List Char} {r : List (List Char)}

/-- At a separator or at the end, the token that is being read is the first of the runs that are still to come. -/
lemma flush_listed (whole : before ++ s ++ after = src) (inside : ∀ c ∈ s, c ∉ sep)
    (left : ∀ c ∈ before.getLast?, c ∈ sep) (right : ∀ c ∈ after.head?, c ∈ sep)
    {runs : List (MaximalRun (· ∈ sep) src)} (listed : MaximalRun.Listed (before.length + s.length) runs) :
    ∃ runs' : List (MaximalRun (· ∈ sep) src), MaximalRun.Listed before.length runs' ∧
      (if s.length ≠ 0 then r ++ [s] else r) ++ runs.map MaximalRun.word = r ++ runs'.map MaximalRun.word := by
  cases s with
  | nil => exact ⟨runs, listed, rfl⟩
  | cons c cs =>
    let run : MaximalRun (· ∈ sep) src := MaximalRun.ofParts whole (List.cons_ne_nil c cs) inside left right
    refine ⟨run :: runs, MaximalRun.Listed.cons run listed, ?_⟩
    have word : run.word = c :: cs := MaximalRun.word_ofParts whole _ inside left right
    rw [if_pos (by exact Nat.succ_ne_zero _), List.map_cons, word, List.append_assoc, List.singleton_append]

/-- The loop returns the runs that start with the token being read or behind it, after those that it has. -/
lemma strSplitFrom_listed (whole : before ++ s ++ after = src) (inside : ∀ c ∈ s, c ∉ sep)
    (left : ∀ c ∈ before.getLast?, c ∈ sep) :
    ∃ runs : List (MaximalRun (· ∈ sep) src), MaximalRun.Listed before.length runs ∧
      strSplitFrom sep after s r = r ++ runs.map MaximalRun.word := by
  induction after generalizing before s r with
  | nil =>
    have length : src.length ≤ before.length + s.length := by
      rw [← whole, List.append_nil, List.length_append]
    obtain ⟨runs, listed, flushed⟩ :=
      flush_listed (r := r) whole inside left (fun c mem => by cases mem) (MaximalRun.listed_nil length)
    refine ⟨runs, listed, ?_⟩
    rw [strSplitFrom, ← flushed, List.map_nil, List.append_nil]
  | cons c after ih =>
    rw [strSplitFrom]
    split
    · next mem =>
      have here : src[before.length + s.length]? = some c := by
        rw [← whole, ← List.length_append, List.getElem?_append_right (Nat.le_refl _), Nat.sub_self]
        rfl
      have later : before ++ s ++ [c] ++ [] ++ after = src := by
        rw [← whole, List.append_nil, List.append_assoc, List.singleton_append]
      have last : ∀ d ∈ (before ++ s ++ [c]).getLast?, d ∈ sep := by
        rw [List.getLast?_concat]
        rintro d ⟨⟩
        exact mem
      obtain ⟨runs, listed, rest⟩ :=
        ih (r := if s.length ≠ 0 then r ++ [s] else r) later (fun d none => absurd none List.not_mem_nil) last
      rw [List.length_append, List.length_append] at listed
      rw [rest]
      exact flush_listed whole inside left (fun d => by rintro ⟨⟩; exact mem) (listed.passed here mem)
    · next plain =>
      have later : before ++ (s ++ [c]) ++ after = src := by
        rw [← whole, List.append_assoc, List.append_assoc, List.append_assoc, List.singleton_append]
      refine ih later (fun d mem => ?_) left
      rcases List.mem_append.mp mem with old | new
      · exact inside d old
      · rwa [List.mem_singleton.mp new]

/-- The tokens are the maximal runs of characters that are no separators, each one once and in order; none is empty
or has a separator in it. -/
theorem strSplit_runs (src sep : List Char) :
    ∃ runs : List (MaximalRun (· ∈ sep) src),
      runs.Pairwise (fun run run' => run.stop < run'.start) ∧ (∀ run, run ∈ runs) ∧
        strSplit src sep = runs.map MaximalRun.word ∧
        ∀ token ∈ strSplit src sep, token ≠ [] ∧ ∀ c ∈ token, c ∉ sep := by
  have whole : [] ++ [] ++ src = src := rfl
  have inside : ∀ c ∈ ([] : List Char), c ∉ sep := fun c none => absurd none List.not_mem_nil
  have left : ∀ c ∈ ([] : List Char).getLast?, c ∈ sep := fun c none => by cases none
  obtain ⟨runs, listed, split⟩ := strSplitFrom_listed (r := []) whole inside left
  rw [List.nil_append] at split
  refine ⟨runs, listed.sorted, fun run => (listed.complete run).mpr (Nat.zero_le _), split, fun token mem => ?_⟩
  rw [strSplit, split] at mem
  obtain ⟨run, -, rfl⟩ := List.mem_map.mp mem
  exact ⟨run.word_ne_nil, fun c => MaximalRun.not_sep_of_mem⟩

end Legacy.Util
