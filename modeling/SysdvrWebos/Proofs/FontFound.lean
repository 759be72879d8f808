/-
Module: SysdvrWebos.Proofs.FontFound
Layer: Proofs
Purpose: The search for a font agrees with the plain list of all fonts within reach: it comes back with the
  first of them in the order of the walk, finds one if there is any, and closes every directory it has
  opened in the reverse order, five at a time at the most.
Trusted boundary: none (fully proved)
Main exports: FontBelow, fontsBelow, mem_fontsBelow_iff, findFirstTtf_eq, Nested, nested_findFirstTtf,
  system_font_is_found
Open obligations: none
-/
import SysdvrWebos.Core.FontSearch

namespace SysdvrWebos

/-- A font within reach of the walk: an entry of the directory, or one of a directory among its entries. -/
inductive FontBelow (files : FontFiles) : Nat → CString → CText 512 → Prop where
  | here {levels directory entries name path} (listed : files.opendir directory = some entries)
      (member : name ∈ entries) (proper : isDots name = false) (fits : entryPath directory name = some path)
      (regular : files.stat path.toCString = some .regular) (ttf : endsWithTtf name = true) :
      FontBelow files (levels + 1) directory path
  | deeper {levels directory entries name path font} (listed : files.opendir directory = some entries)
      (member : name ∈ entries) (proper : isDots name = false) (fits : entryPath directory name = some path)
      (folder : files.stat path.toCString = some .directory)
      (below : FontBelow files levels path.toCString font) : FontBelow files (levels + 1) directory font

/-- The fonts behind one entry. -/
def fontsAt (files : FontFiles) (directory : CString) (below : CString → List (CText 512)) (name : CString) :
    List (CText 512) :=
  if isDots name then []
  else
    match entryPath directory name with
    | none => []
    | some path =>
        match files.stat path.toCString with
        | some .regular => if endsWithTtf name then [path] else []
        | some .directory => below path.toCString
        | some .other => []
        | none => []

/-- All fonts within reach, in the order of the walk. -/
def fontsBelow (files : FontFiles) : Nat → CString → List (CText 512)
  | 0, _ => []
  | levels + 1, directory =>
      ((files.opendir directory).getD []).flatMap (fontsAt files directory (fontsBelow files levels))

variable {files : FontFiles} {directory : CString}

/-! ### The fonts within reach -/

theorem mem_fontsBelow_iff {levels : Nat} {font : CText 512} :
    font ∈ fontsBelow files levels directory ↔ FontBelow files levels directory font := by
  induction levels generalizing directory with
  | zero =>
      constructor
      · intro member
        cases member
      · intro below
        cases below
  | succ levels ih =>
      rw [fontsBelow, List.mem_flatMap]
      constructor
      · rintro ⟨name, member, behind⟩
        cases listed : files.opendir directory with
        | none =>
            rw [listed] at member
            cases member
        | some entries =>
            rw [listed, Option.getD_some] at member
            unfold fontsAt at behind
            split at behind
            · cases behind
            · next proper =>
                have proper := Bool.eq_false_iff.mpr proper
                split at behind
                · cases behind
                · next path fits =>
                    split at behind
                    · next regular =>
                        split at behind
                        · next ttf =>
                            obtain rfl := List.mem_singleton.mp behind
                            exact .here listed member proper fits regular ttf
                        · cases behind
                    · next folder => exact .deeper listed member proper fits folder (ih.mp behind)
                    · cases behind
                    · cases behind
      · intro below
        cases below with
        | @here _ _ entries name _ listed member proper fits regular ttf =>
            refine ⟨name, by rwa [listed], ?_⟩
            simp [fontsAt, proper, fits, regular, ttf]
        | @deeper _ _ entries name path _ listed member proper fits folder below =>
            refine ⟨name, by rwa [listed], ?_⟩
            simp only [fontsAt, proper, fits, folder, Bool.false_eq_true, if_false]
            exact ih.mpr below

/-! ### The walk -/

theorem scanEntries_eq {descend : CString → Option (CText 512) × List DirCall}
    {below : CString → List (CText 512)} (first : ∀ path, (descend path).1 = (below path).head?)
    (entries : List CString) :
    (scanEntries files directory descend entries).1
      = (entries.flatMap (fontsAt files directory below)).head? := by
  induction entries with
  | nil => rfl
  | cons name rest ih =>
      rw [List.flatMap_cons, scanEntries, fontsAt]
      cases isDots name with
      | true => exact ih
      | false =>
          cases entryPath directory name with
          | none => exact ih
          | some path =>
              cases kind : files.stat path.toCString with
              | none =>
                  simp only [kind]
                  exact ih
              | some kind' =>
                  cases kind' with
                  | regular =>
                      simp only [kind]
                      cases endsWithTtf name with
                      | true => rfl
                      | false => exact ih
                  | other =>
                      simp only [kind]
                      exact ih
                  | directory =>
                      have same := first path.toCString
                      simp only [kind, Bool.false_eq_true, if_false]
                      cases walked : descend path.toCString with
                      | mk found calls =>
                          rw [walked] at same
                          cases found with
                          | some font =>
                              rw [List.head?_append, ← same]
                              rfl
                          | none =>
                              have empty : below path.toCString = [] := List.head?_eq_none_iff.mp same.symm
                              rw [empty]
                              exact ih

/-- The walk comes back with the first font within reach. -/
theorem findFirstTtf_eq (files : FontFiles) (levels : Nat) (directory : CString) :
    (findFirstTtf files levels directory).1 = (fontsBelow files levels directory).head? := by
  induction levels generalizing directory with
  | zero => rfl
  | succ levels ih =>
      rw [findFirstTtf, fontsBelow]
      cases files.opendir directory with
      | none => rfl
      | some entries => exact scanEntries_eq ih entries

/-! ### What it opens and closes -/

/-- Directories are closed in the reverse order of their opening, and at most so many are open at once. -/
inductive Nested : Nat → List DirCall → Prop where
  | nothing {most} : Nested most []
  | around {most directory inner later} (inside : Nested most inner) (behind : Nested (most + 1) later) :
      Nested (most + 1) (.opens directory :: inner ++ .closes directory :: later)

theorem Nested.append {most : Nat} {first later : List DirCall} (one : Nested most first)
    (other : Nested most later) : Nested most (first ++ later) := by
  induction one with
  | nothing => exact other
  | @around most directory inner behind inside _ _ ih =>
      have joined := @Nested.around _ directory _ _ inside (ih other)
      simpa only [List.cons_append, List.append_assoc] using joined

theorem nested_scanEntries {most : Nat} {descend : CString → Option (CText 512) × List DirCall}
    (nested : ∀ path, Nested most (descend path).2) (entries : List CString) :
    Nested most (scanEntries files directory descend entries).2 := by
  induction entries with
  | nil => exact .nothing
  | cons name rest ih =>
      rw [scanEntries]
      split
      · exact ih
      · split
        · exact ih
        · next path _ =>
            have within := nested path.toCString
            split
            · split
              · exact .nothing
              · exact ih
            · split
              · next font calls walked =>
                  rw [walked] at within
                  exact within
              · next calls walked =>
                  rw [walked] at within
                  exact within.append ih
            · exact ih
            · exact ih

theorem nested_findFirstTtf (levels : Nat) (directory : CString) :
    Nested levels (findFirstTtf files levels directory).2 := by
  induction levels generalizing directory with
  | zero => exact .nothing
  | succ levels ih =>
      rw [findFirstTtf]
      split
      · exact .nothing
      · next entries _ => exact .around (nested_scanEntries ih entries) .nothing

/-! ### The search -/

theorem systemFonts_fit : ∀ candidate ∈ systemFonts, candidate.bytes.length < 512 := by decide

/-- The search for a font gives the first readable one of the known files; where none is readable it gives
    the first font that the walk of the font directory comes across, and none only if there is none within
    reach; and it leaves no directory open. -/
theorem system_font_is_found (files : FontFiles) :
    (∀ font, (findSystemFont files).1 = some font →
      (∃ before candidate after, systemFonts = before ++ candidate :: after ∧
        files.readable candidate = true ∧ (∀ other ∈ before, files.readable other = false) ∧
        font.bytes = candidate.bytes) ∨
      (∀ candidate ∈ systemFonts, files.readable candidate = false) ∧
        FontBelow files fontLevels fontDirectory font ∧
        ∃ later, fontsBelow files fontLevels fontDirectory = font :: later) ∧
    ((findSystemFont files).1 = none ↔
      (∀ candidate ∈ systemFonts, files.readable candidate = false) ∧
        ∀ font, ¬ FontBelow files fontLevels fontDirectory font) ∧
    Nested fontLevels (findSystemFont files).2 := by
  have walk := findFirstTtf_eq files fontLevels fontDirectory
  unfold findSystemFont
  cases known : systemFonts.find? files.readable with
  | some candidate =>
      obtain ⟨readable, before, after, split, others⟩ := List.find?_eq_some_iff_append.mp known
      have member : candidate ∈ systemFonts := List.mem_of_find?_eq_some known
      refine ⟨fun font found => Or.inl ?_, ?_, .nothing⟩
      · cases found
        refine ⟨before, candidate, after, split, readable, fun other first => ?_, ?_⟩
        · simpa using others other first
        · rw [CText.print_bytes]
          apply List.take_of_length_le
          have short := systemFonts_fit candidate member
          omega
      · constructor
        · intro none
          cases none
        · intro ⟨unreadable, _⟩
          rw [unreadable candidate member] at readable
          cases readable
  | none =>
      have unreadable : ∀ candidate ∈ systemFonts, files.readable candidate = false := by
        intro candidate member
        simpa using List.find?_eq_none.mp known candidate member
      refine ⟨fun font found => Or.inr ?_, ?_, nested_findFirstTtf fontLevels fontDirectory⟩
      · rw [walk] at found
        obtain ⟨later, all⟩ := List.head?_eq_some_iff.mp found
        refine ⟨unreadable, mem_fontsBelow_iff.mp ?_, later, all⟩
        rw [all]
        exact List.mem_cons_self
      · rw [walk, List.head?_eq_none_iff]
        constructor
        · intro empty
          refine ⟨unreadable, fun font below => ?_⟩
          have member := mem_fontsBelow_iff.mpr below
          rw [empty] at member
          cases member
        · intro ⟨_, out⟩
          apply List.eq_nil_iff_forall_not_mem.mpr
          intro font member
          exact out font (mem_fontsBelow_iff.mp member)

end SysdvrWebos
