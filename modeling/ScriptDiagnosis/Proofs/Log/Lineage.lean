/-
  ScriptDiagnosis/Proofs/Log/Lineage.lean
  =======================================
  The loggers that a record of this library passes.  From below, every name in a lineage is cut
  off from the one before it (`lineage_descends`).  So whatever stands in a lineage below the root
  of this library has a name that goes on where the root's ends, and where those loggers are as
  they were made, only the root says what is heeded and where it goes (`leastLevel_eq`,
  `passed_eq`).

  A name that goes on behind the root's with a dot and something else than a dot has the root in
  its lineage, whichever loggers there are besides (`inTree_child`).
-/
import Mathlib.Data.List.Infix
import ScriptDiagnosis.Log.Routing

namespace ScriptDiagnosis.Log

/-! ### The names above a name -/

variable {known : List Text}

/-- A name above another is a shorter beginning of it. -/
theorem suffix_of_mem_namesAbove {w n : Text} (h : n ∈ namesAbove known w) :
    n.reverse <:+ w ∧ n.length < w.length := by
  fun_induction namesAbove known w with
  | case1 c rest hknown ih =>
    rcases List.mem_cons.mp h with rfl | hmem
    · rw [List.reverse_reverse]
      exact ⟨List.suffix_cons '.' (c :: rest), by simp⟩
    · obtain ⟨hsuffix, hlt⟩ := ih hmem
      exact ⟨hsuffix.trans (List.suffix_cons '.' (c :: rest)), Nat.lt_succ_of_lt hlt⟩
  | case2 c rest hunknown ih =>
    obtain ⟨hsuffix, hlt⟩ := ih h
    refine ⟨hsuffix.trans ?_, Nat.lt_succ_of_lt (Nat.lt_succ_of_lt hlt)⟩
    exact (List.suffix_cons c rest).trans (List.suffix_cons '.' (c :: rest))
  | case3 c rest hdot ih =>
    obtain ⟨hsuffix, hlt⟩ := ih h
    exact ⟨hsuffix.trans (List.suffix_cons c rest), Nat.lt_succ_of_lt hlt⟩
  | case4 => cases h

/-- A name that goes on where another ends. -/
def GoesOn (name above : Text) : Prop := above <+: name ∧ above ≠ name

theorem goesOn_of_mem_namesAbove {name n : Text} (h : n ∈ namesAbove known name.reverse) :
    GoesOn name n := by
  obtain ⟨hsuffix, hlt⟩ := suffix_of_mem_namesAbove h
  refine ⟨List.reverse_suffix.mp hsuffix, ?_⟩
  rintro rfl
  rw [List.length_reverse] at hlt
  exact Nat.lt_irrefl _ hlt

theorem namesAbove_descends (w : Text) : (namesAbove known w).Pairwise GoesOn := by
  fun_induction namesAbove known w with
  | case1 c rest hknown ih =>
    refine List.pairwise_cons.mpr ⟨?_, ih⟩
    intro n hn
    apply goesOn_of_mem_namesAbove
    rwa [List.reverse_reverse]
  | case2 c rest hunknown ih => exact ih
  | case3 c rest hdot ih => exact ih
  | case4 => exact .nil

/-- A known name is above every one that goes on behind it with a dot, and not with a second. -/
theorem mem_namesAbove {name : Text} (hknown : name ∈ known) (hne : name ≠ []) :
    ∀ w : Text, w.getLast? ≠ some '.' → name ∈ namesAbove known (w ++ '.' :: name.reverse)
  | [], _ => by
    obtain ⟨c, rest, hname⟩ := List.exists_cons_of_ne_nil (List.reverse_ne_nil_iff.mpr hne)
    have hback : (c :: rest).reverse = name := by rw [← hname, List.reverse_reverse]
    rw [List.nil_append, hname, namesAbove, hback, if_pos hknown]
    exact .head _
  | [c], hlast => by
    have hdot : c ≠ '.' := by
      rintro rfl
      exact hlast rfl
    have hrest := mem_namesAbove hknown hne [] nofun
    simpa [namesAbove, hdot] using hrest
  | a :: b :: w, hlast => by
    have hmore : name ∈ namesAbove known (b :: w ++ '.' :: name.reverse) :=
      mem_namesAbove hknown hne (b :: w) (by simpa using hlast)
    by_cases hdot : a = '.'
    · subst hdot
      show name ∈ namesAbove known ('.' :: b :: (w ++ '.' :: name.reverse))
      rw [namesAbove]
      split
      · exact .tail _ hmore
      · have hlast : w.getLast? ≠ some '.' := by
          cases w with
          | nil => nofun
          | cons c w => simpa using hlast
        exact mem_namesAbove hknown hne w hlast
    · simpa [namesAbove, hdot] using hmore

/-! ### Lineages -/

namespace Loggers

variable {ls : Loggers} {name : Text}

@[simp] theorem logger_some (ls : Loggers) (name : Text) : ls.logger (some name) = ls.named name :=
  rfl

/-- In a lineage, what has a name stands above names that go on behind it. -/
theorem lineage_descends (ls : Loggers) (name : Text) :
    (ls.lineage name).Pairwise fun a b => ∀ n, b = some n → ∃ m, a = some m ∧ GoesOn m n := by
  rw [lineage]
  split
  · exact List.pairwise_singleton _ _
  · refine List.pairwise_append.mpr ⟨?_, List.pairwise_singleton _ _, ?_⟩
    · rw [List.pairwise_map]
      refine (List.pairwise_cons.mpr ⟨?_, namesAbove_descends _⟩).imp ?_
      · exact fun n hn => goesOn_of_mem_namesAbove hn
      · intro m n hgoesOn k hk
        cases hk
        exact ⟨m, rfl, hgoesOn⟩
    · intro a _ b hb n hn
      rw [List.mem_singleton.mp hb] at hn
      cases hn

/-- The logger is the root of this library or stands below it. -/
def InTree (ls : Loggers) (name : Text) : Prop := some rootLogger ∈ ls.lineage name

/-- The loggers below the root of this library are as they were made. -/
def Untouched (ls : Loggers) : Prop :=
  ∀ name, GoesOn name rootLogger → ls.named name = {}

/-- Up to the root, a lineage has nothing but untouched loggers. -/
theorem InTree.exists_below (h : ls.InTree name) (huntouched : ls.Untouched) :
    ∃ below above, ls.lineage name = below ++ some rootLogger :: above ∧
      none ∉ below ∧ ∀ n ∈ below, ls.logger n = {} := by
  obtain ⟨below, above, hlineage⟩ := List.append_of_mem h
  have hdescends := lineage_descends ls name
  rw [hlineage, List.pairwise_append] at hdescends
  have hbelow : ∀ n ∈ below, ∃ m, n = some m ∧ GoesOn m rootLogger :=
    fun n hn => hdescends.2.2 n hn _ (.head _) rootLogger rfl
  refine ⟨below, above, hlineage, ?_, ?_⟩
  · intro hnone
    obtain ⟨m, hm, _⟩ := hbelow none hnone
    cases hm
  · intro n hn
    obtain ⟨m, rfl, hgoesOn⟩ := hbelow n hn
    exact huntouched m hgoesOn

theorem namesTop_of_head {c : Char} {rest : Text} (hc : c ≠ 'r') :
    namesTop (c :: rest) = false := by
  simp [namesTop, hc]

theorem inTree_root (ls : Loggers) : ls.InTree rootLogger := by
  have hnot : namesTop rootLogger = false := by decide
  rw [InTree, lineage, hnot]
  exact .head _

/-- Whatever goes on behind the root's name with a single dot stands below the root. -/
theorem inTree_child (hknown : rootLogger ∈ ls.known) {rest : Text} (hdot : rest.head? ≠ some '.') :
    ls.InTree (rootLogger ++ '.' :: rest) := by
  have hnot : namesTop (rootLogger ++ '.' :: rest) = false := namesTop_of_head (by decide)
  have hreverse : (rootLogger ++ '.' :: rest).reverse =
      rest.reverse ++ '.' :: rootLogger.reverse := by
    simp
  have habove := mem_namesAbove hknown (by decide) rest.reverse (by simpa using hdot)
  rw [InTree, lineage, hnot, hreverse]
  exact List.mem_append_left _ (List.mem_map_of_mem (List.mem_cons_of_mem _ habove))

/-! ### What the root decides -/

theorem upTo_append {α : Type} {stops : α → Bool} {before : List α} (a : α) (after : List α)
    (h : ∀ b ∈ before, stops b = false) (ha : stops a = true) :
    upTo stops (before ++ a :: after) = before ++ [a] := by
  induction before with
  | nil => rw [List.nil_append, upTo, if_pos ha, List.nil_append]
  | cons b before ih =>
    obtain ⟨hb, hbefore⟩ := List.forall_mem_cons.mp h
    rw [List.cons_append, upTo, hb, ih hbefore]
    rfl

section Root

variable (huntouched : ls.Untouched) (h : ls.InTree name)

include huntouched h

/-- No logger of the tree has a level of its own, so the root of the tree decides. -/
theorem leastLevel_eq (hset : (ls.named rootLogger).level ≠ .notSet) :
    ls.leastLevel name = (ls.named rootLogger).level := by
  obtain ⟨below, above, hlineage, _, hplain⟩ := h.exists_below huntouched
  have hnone : (below.map fun n => (ls.logger n).level).find? (· ≠ .notSet) = none := by
    rw [List.find?_eq_none]
    intro level hlevel
    obtain ⟨n, hn, rfl⟩ := List.mem_map.mp hlevel
    rw [hplain n hn]
    decide
  rw [leastLevel, hlineage, List.map_append, List.find?_append, hnone, Option.none_or,
    List.map_cons, logger_some, List.find?_cons_of_pos (by simpa using hset)]
  rfl

/-- A record passes the loggers up to the root, where it stops, and none of them but the root has
    a handler. -/
theorem passed_eq (hstops : (ls.named rootLogger).propagates = false) :
    none ∉ ls.passed name ∧ ls.streams name = (ls.named rootLogger).handlers := by
  obtain ⟨below, above, hlineage, hnone, hplain⟩ := h.exists_below huntouched
  have hpassed : ls.passed name = below ++ [some rootLogger] := by
    rw [passed, hlineage]
    refine upTo_append _ _ ?_ ?_
    · intro n hn
      rw [hplain n hn]
      rfl
    · rw [logger_some, hstops]
      rfl
  have hsilent : (below.flatMap fun n => (ls.logger n).handlers) = [] := by
    rw [List.flatMap_eq_nil_iff]
    intro n hn
    rw [hplain n hn]
  constructor
  · rw [hpassed]
    simpa using hnone
  · rw [streams, hpassed, List.flatMap_append, hsilent]
    simp

end Root

end Loggers
end ScriptDiagnosis.Log
