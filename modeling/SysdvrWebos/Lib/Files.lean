/-
Module: SysdvrWebos.Lib.Files
Layer: Lib
Purpose: A directory as a map from paths to contents, with the operations of a program that writes a
  temporary file and then moves it into place. Each operation has its effect on the paths it names and none
  on the others.
Trusted boundary: none (fully proved)
Main exports: Files, Files.write, Files.append, Files.unlink, Files.rename
Open obligations: none
-/
import Mathlib.Logic.Function.Basic

/-- The files of a directory. -/
structure Files (Path Content : Type*) where
  read : Path → Option Content

namespace Files

variable {Path Content α : Type*} [DecidableEq Path] {path other source target : Path}

/-- The directory without files. -/
def empty : Files Path Content := ⟨fun _ => none⟩

/-- Create or overwrite a file. -/
def write (files : Files Path Content) (path : Path) (content : Content) : Files Path Content :=
  ⟨Function.update files.read path (some content)⟩

/-- Add to the end of a file. -/
def append (files : Files Path (List α)) (path : Path) (more : List α) : Files Path (List α) :=
  files.write path ((files.read path).getD [] ++ more)

/-- Remove a file, if it is there. -/
def unlink (files : Files Path Content) (path : Path) : Files Path Content :=
  ⟨Function.update files.read path none⟩

/-- Move a file over another one. -/
def rename (files : Files Path Content) (source target : Path) : Files Path Content :=
  match files.read source with
  | none => files
  | some content => (files.unlink source).write target content

@[simp] theorem read_write_self (files : Files Path Content) (content : Content) :
    (files.write path content).read path = some content :=
  Function.update_self ..

@[simp] theorem read_write_of_ne (files : Files Path Content) (content : Content)
    (distinct : other ≠ path) : (files.write path content).read other = files.read other :=
  Function.update_of_ne distinct ..

@[simp] theorem read_append_self (files : Files Path (List α)) (more : List α) :
    (files.append path more).read path = some ((files.read path).getD [] ++ more) :=
  read_write_self ..

@[simp] theorem read_append_of_ne (files : Files Path (List α)) (more : List α)
    (distinct : other ≠ path) : (files.append path more).read other = files.read other :=
  read_write_of_ne _ _ distinct

@[simp] theorem read_unlink_self (files : Files Path Content) :
    (files.unlink path).read path = none :=
  Function.update_self ..

@[simp] theorem read_unlink_of_ne (files : Files Path Content) (distinct : other ≠ path) :
    (files.unlink path).read other = files.read other :=
  Function.update_of_ne distinct ..

/-- The target of a move has what the source had. -/
theorem read_rename_target (files : Files Path Content) {content : Content}
    (there : files.read source = some content) : (files.rename source target).read target = some content := by
  rw [rename, there]
  exact read_write_self ..

theorem read_rename_of_ne (files : Files Path Content) (notSource : other ≠ source)
    (notTarget : other ≠ target) : (files.rename source target).read other = files.read other := by
  unfold rename
  cases files.read source with
  | none => rfl
  | some content => simp [notSource, notTarget]

end Files
