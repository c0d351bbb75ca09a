/-
What writing files leaves behind. Files are written one after the other into
one directory, and a file that is written under a name takes the place of one
that has it.

A write leaves all directories where they are and adds none. So a path that
could be walked before leads to the same place afterwards (`walk_of_write`),
and there is the same as before, unless it is the place that was written to
(`content?_of_write`). Two simple names lead to two places, so a file that is
written under a name stays as it is while others are written under other
names (`Holds.of_write`), and a run leaves of each name the file that it wrote
last (`holds_of_writeAll`).
-/
import DataBinding.CommandLine.Run
import Mathlib.Tactic.SplitIfs

namespace DataBinding.CommandLine

namespace FileTree

variable {tree tree' : FileTree} {directory fileName text : String}

-- ============================================================ one write

/-- A walk in two parts. -/
theorem walk_append (start : Place) (names others : List String) :
    tree.walk start (names ++ others) = tree.walk start names >>= (tree.walk · others) := by
  induction names generalizing start with
  | nil => rfl
  | cons name rest ih =>
    rw [List.cons_append, walk, walk]
    split
    · rfl
    · split
      · rfl
      · split
        · rfl
        · exact ih _

/-- What a write has done when it succeeds: the file is at the place that its
path leads to, where there is no directory. -/
theorem write_ok (run : tree.write directory fileName text = .ok tree') :
    ∃ place, tree.walk [] (steps directory ++ steps fileName) = .ok place
      ∧ tree.hasDirectory place = false
      ∧ tree' = { tree with
          files := (tree.files.filter (·.1 != place)) ++ [(place, text.toUTF8)] } := by
  unfold write at run
  simp only [bind, Except.bind] at run
  split at run
  · cases run
  · cases walked : tree.walk [] (steps directory ++ steps fileName) with
    | error fault =>
      rw [walked] at run
      cases run
    | ok place =>
      rw [walked] at run
      dsimp only at run
      split at run
      · cases run
      · next free =>
        cases run
        exact ⟨place, rfl, Bool.not_eq_true _ ▸ free, rfl⟩

/-- Without what is at one place, there is elsewhere what was there. -/
theorem lookup_filter_ne (files : List (Place × ByteArray)) (place other : Place) :
    (files.filter (·.1 != place)).lookup other
      = if other = place then none else files.lookup other := by
  induction files with
  | nil => simp
  | cons file rest ih =>
    obtain ⟨key, bytes⟩ := file
    by_cases replaced : key = place
    · rw [List.filter_cons_of_neg (by simp [replaced]), ih, List.lookup_cons]
      by_cases here : other = place
      · rw [if_pos here, if_pos here]
      · rw [if_neg here, if_neg here, replaced, beq_eq_false_iff_ne.2 here]
    · rw [List.filter_cons_of_pos (by simp [replaced]), List.lookup_cons, List.lookup_cons, ih]
      by_cases here : other = key
      · have elsewhere : other ≠ place := here ▸ replaced
        rw [beq_iff_eq.2 here, if_neg elsewhere, if_neg elsewhere]
      · rw [beq_eq_false_iff_ne.2 here]

/-- A file that is written stands at its place, and elsewhere there is what
was there. -/
theorem content?_of_write (run : tree.write directory fileName text = .ok tree') {place : Place}
    (walked : tree.walk [] (steps directory ++ steps fileName) = .ok place) (other : Place) :
    tree'.content? other = if other = place then some text.toUTF8 else tree.content? other := by
  obtain ⟨place', walked', -, rfl⟩ := write_ok run
  obtain rfl := Except.ok.inj (walked.symm.trans walked')
  show List.lookup other (_ ++ _) = _
  rw [List.lookup_append, lookup_filter_ne, List.lookup_cons, List.lookup_nil]
  by_cases here : other = place
  · rw [if_pos here, if_pos here, beq_iff_eq.2 here, Option.none_or]
  · rw [if_neg here, if_neg here, beq_eq_false_iff_ne.2 here, Option.or_none]
    rfl

/-- A write changes nothing about where paths lead. -/
theorem walk_of_write (run : tree.write directory fileName text = .ok tree') {start place : Place}
    {names : List String} (walked : tree.walk start names = .ok place) :
    tree'.walk start names = .ok place := by
  obtain ⟨written, walkedThere, free, same⟩ := write_ok run
  have directories : ∀ place, tree'.hasDirectory place = tree.hasDirectory place := by
    rw [same]
    exact fun _ => rfl
  induction names generalizing start with
  | nil => exact walked
  | cons name rest ih =>
    rw [walk] at walked ⊢
    split at walked
    · cases walked
    · next noFile =>
      split at walked
      · cases walked
      · next isDirectory =>
        split at walked
        · cases walked
        · next short =>
          -- what was written is no directory, so it does not stand here
          have elsewhere : start ≠ written := by
            rintro rfl
            rw [free] at isDirectory
            exact isDirectory rfl
          have noFile' : tree'.isFile start = tree.isFile start := by
            unfold isFile
            rw [content?_of_write run walkedThere, if_neg elsewhere]
          rw [noFile', if_neg noFile, directories, if_neg isDirectory, if_neg short]
          exact ih walked

-- ========================================================== what is held

/-- The file that a path leads to holds a text. -/
def Holds (tree : FileTree) (directory fileName text : String) : Prop :=
  ∃ place, tree.walk [] (steps directory ++ steps fileName) = .ok place
    ∧ tree.content? place = some text.toUTF8

/-- What has been written is held. -/
theorem holds_of_write (run : tree.write directory fileName text = .ok tree') :
    tree'.Holds directory fileName text := by
  obtain ⟨place, walked, -⟩ := write_ok run
  exact ⟨place, walk_of_write run walked, by rw [content?_of_write run walked, if_pos rfl]⟩

/-- A name that leads one step ahead. -/
def SimpleName (fileName : String) : Prop :=
  steps fileName = [fileName] ∧ fileName ≠ "." ∧ fileName ≠ ".."

/-- A simple name leads to the place of that name in the directory. -/
theorem walk_simple (simple : SimpleName fileName) {place : Place}
    (walked : tree.walk [] (steps directory ++ steps fileName) = .ok place) :
    ∃ above, tree.walk [] (steps directory) = .ok above ∧ place = above ++ [fileName] := by
  obtain ⟨one, noDot, noDots⟩ := simple
  rw [walk_append, one] at walked
  cases reached : tree.walk [] (steps directory) with
  | error fault =>
    rw [reached] at walked
    cases walked
  | ok above =>
    rw [reached] at walked
    refine ⟨above, rfl, ?_⟩
    have step : above.step fileName = above ++ [fileName] := by
      rw [Place.step, if_neg noDot, if_neg noDots]
    change tree.walk above [fileName] = .ok place at walked
    rw [walk] at walked
    split_ifs at walked
    rw [walk, step] at walked
    exact (Except.ok.inj walked).symm

/-- What is held under another name stays. -/
theorem Holds.of_write {other text' : String} (held : tree.Holds directory other text')
    (run : tree.write directory fileName text = .ok tree') (simple : SimpleName fileName)
    (simple' : SimpleName other) (apart : other ≠ fileName) :
    tree'.Holds directory other text' := by
  obtain ⟨place, walked, content⟩ := held
  refine ⟨place, walk_of_write run walked, ?_⟩
  obtain ⟨written, walkedThere, -⟩ := write_ok run
  obtain ⟨above, reached, rfl⟩ := walk_simple simple' walked
  obtain ⟨above', reached', rfl⟩ := walk_simple simple walkedThere
  obtain rfl := Except.ok.inj (reached.symm.trans reached')
  rw [content?_of_write run walkedThere, if_neg, content]
  exact fun same => apart (List.singleton_inj.1 (List.append_cancel_left same))

-- ================================================================= a run

/-- One write of a run. -/
theorem run_write (directory fileName text : String) (tree : FileTree) :
    (access.write directory fileName text).run tree
      = match tree.write directory fileName text with
        | .ok tree' => (.ok (), tree')
        | .error fault => (.error fault, tree) := by
  unfold access
  cases written : tree.write directory fileName text with
  | ok tree' => simp [written]; rfl
  | error fault => simp [written]; rfl

theorem run_makeDirectory (directory : String) (tree : FileTree) :
    (access.makeDirectory directory).run tree
      = match tree.makeDirectory directory with
        | .ok tree' => (.ok (), tree')
        | .error fault => (.error fault, tree) := by
  unfold access
  cases made : tree.makeDirectory directory with
  | ok tree' => simp [made]; rfl
  | error fault => simp [made]; rfl

/-- A run goes on after a write that succeeds. -/
theorem run_writeAll_cons (file : GeneratedFile) (rest : List GeneratedFile) :
    (writeAll access directory (file :: rest)).run tree
      = match tree.write directory file.fileName file.code with
        | .ok next => (writeAll access directory rest).run next
        | .error fault => (.error fault, tree) := by
  rw [writeAll, StateT.run_bind, run_write]
  cases tree.write directory file.fileName file.code with
  | ok next => rfl
  | error fault => rfl

/-- A run that succeeds begins with a write that does. -/
theorem writeAll_cons {file : GeneratedFile} {rest : List GeneratedFile}
    (run : (writeAll access directory (file :: rest)).run tree = (.ok (), tree')) :
    ∃ next, tree.write directory file.fileName file.code = .ok next
      ∧ (writeAll access directory rest).run next = (.ok (), tree') := by
  rw [run_writeAll_cons] at run
  cases written : tree.write directory file.fileName file.code with
  | error fault =>
    rw [written] at run
    cases run
  | ok next =>
    rw [written] at run
    exact ⟨next, rfl, run⟩

/-- What is held under a name stays while files with other names are
written. -/
theorem holds_after_writeAll {files : List GeneratedFile} {other text' : String}
    (simple : ∀ file ∈ files, SimpleName file.fileName)
    (run : (writeAll access directory files).run tree = (.ok (), tree'))
    (simple' : SimpleName other) (apart : ∀ file ∈ files, file.fileName ≠ other)
    (held : tree.Holds directory other text') : tree'.Holds directory other text' := by
  induction files generalizing tree with
  | nil =>
    cases run
    exact held
  | cons first rest ih =>
    obtain ⟨simpleFirst, simpleRest⟩ := List.forall_mem_cons.1 simple
    obtain ⟨apartFirst, apartRest⟩ := List.forall_mem_cons.1 apart
    obtain ⟨next, written, run⟩ := writeAll_cons run
    exact ih simpleRest run apartRest (held.of_write written simpleFirst simple' apartFirst.symm)

/-- A run that writes all its files leaves of each name the file that it
wrote last. -/
theorem holds_of_writeAll {files : List GeneratedFile}
    (simple : ∀ file ∈ files, SimpleName file.fileName)
    (run : (writeAll access directory files).run tree = (.ok (), tree'))
    {before after : List GeneratedFile} {file : GeneratedFile}
    (split : files = before ++ file :: after)
    (last : ∀ later ∈ after, later.fileName ≠ file.fileName) :
    tree'.Holds directory file.fileName file.code := by
  induction files generalizing tree before with
  | nil => exact absurd split (by simp)
  | cons first rest ih =>
    obtain ⟨simpleFirst, simpleRest⟩ := List.forall_mem_cons.1 simple
    obtain ⟨next, written, run⟩ := writeAll_cons run
    cases before with
    | cons _ between =>
      obtain ⟨-, split⟩ := List.cons_eq_cons.1 split
      exact ih simpleRest run split
    | nil =>
      obtain ⟨rfl, rfl⟩ := List.cons_eq_cons.1 split
      exact holds_after_writeAll simpleRest run simpleFirst last (holds_of_write written)

/-- Generated code is written into a directory that is there or is made. -/
theorem run_writeGeneration (generation : Generation) (out : String) (tree : FileTree) :
    (writeGeneration access generation out).run tree
      = match tree.makeDirectory out with
        | .ok made => (writeAll access out generation.files).run made
        | .error fault => (.error fault, tree) := by
  unfold writeGeneration
  rw [StateT.run_bind, run_makeDirectory]
  cases tree.makeDirectory out with
  | ok made => rfl
  | error fault => rfl

end FileTree

end DataBinding.CommandLine
