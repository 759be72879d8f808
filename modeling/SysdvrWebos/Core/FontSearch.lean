/-
Module: SysdvrWebos.Core.FontSearch
Layer: Core
Purpose: The search for a font (`find_system_font` and `find_first_ttf`, src/ui.c): six known files, then the
  first TrueType font that a walk of the font directory comes across. The walk returns with the first hit;
  what it opens and closes on the way is kept as a trace.
Trusted boundary: what opendir, readdir, stat and access answer does not change during the search
Main exports: FileKind, FontFiles, endsWithTtf, entryPath, DirCall, scanEntries, findFirstTtf, systemFonts,
  findSystemFont
Open obligations: none
-/
import SysdvrWebos.Lib.CText

namespace SysdvrWebos

/-- What `st_mode` says. -/
inductive FileKind where
  | regular
  | directory
  | other
deriving Repr, DecidableEq

/-- The answers of the file system: `access` with `R_OK`, the names that `readdir` gives for a directory that
    `opendir` opens, and `stat`. -/
structure FontFiles where
  readable : CString → Bool
  opendir : CString → Option (List CString)
  stat : CString → Option FileKind

/-- `ends_with_ttf`. -/
def endsWithTtf (name : CString) : Bool :=
  match name.bytes.drop (name.bytes.length - 4) with
  | [dot, t, u, f] => dot = 46 && (t = 116 || t = 84) && (u = 116 || u = 84) && (f = 102 || f = 70)
  | _ => false

/-- The path of an entry in `path[512]`, if it fits. -/
def entryPath (directory name : CString) : Option (CText 512) :=
  let path := CString.join [directory, .literal "/", name]
  if fits : path.bytes.length < 512 then some ⟨path.bytes, path.nul_free, fits⟩ else none

/-- A call of `opendir` that succeeds, or of `closedir`. -/
inductive DirCall where
  | opens (directory : CString)
  | closes (directory : CString)
deriving DecidableEq

/-- `"."` or `".."`. -/
def isDots (name : CString) : Bool := name.bytes = (CString.literal ".").bytes || name.bytes = (CString.literal "..").bytes

/-- The loop over the entries of a directory; `descend` searches a directory below it. -/
def scanEntries (files : FontFiles) (directory : CString)
    (descend : CString → Option (CText 512) × List DirCall) :
    List CString → Option (CText 512) × List DirCall
  | [] => (none, [])
  | name :: rest =>
      if isDots name then
        scanEntries files directory descend rest
      else
        match entryPath directory name with
        | none => scanEntries files directory descend rest
        | some path =>
            match files.stat path.toCString with
            | some .regular =>
                if endsWithTtf name then (some path, []) else scanEntries files directory descend rest
            | some .directory =>
                match descend path.toCString with
                | (some font, calls) => (some font, calls)
                | (none, calls) =>
                    let (found, later) := scanEntries files directory descend rest
                    (found, calls ++ later)
            | some .other => scanEntries files directory descend rest
            | none => scanEntries files directory descend rest

/-- `find_first_ttf`, with the levels left: `depth + 1`, none of them below zero. -/
def findFirstTtf (files : FontFiles) : Nat → CString → Option (CText 512) × List DirCall
  | 0, _ => (none, [])
  | levels + 1, directory =>
      match files.opendir directory with
      | none => (none, [])
      | some entries =>
          let (found, calls) := scanEntries files directory (findFirstTtf files levels) entries
          (found, .opens directory :: calls ++ [.closes directory])

/-- The `candidates`. -/
def systemFonts : List CString :=
  [.literal "/usr/share/fonts/LG_Display.ttf", .literal "/usr/share/fonts/LG_Display_Light.ttf",
    .literal "/usr/share/fonts/PreludeCondensed-Medium.ttf", .literal "/usr/share/fonts/tt7268m_804.ttf",
    .literal "/usr/share/fonts/TTF/LG_Display.ttf",
    .literal "/usr/share/fonts/TTF/PreludeCondensed-Medium.ttf"]

/-- The directory that is walked, and the levels of `depth` four. -/
def fontDirectory : CString := .literal "/usr/share/fonts"

def fontLevels : Nat := 5

/-- `find_system_font` into the `font_path[512]` of `app_ui`. -/
def findSystemFont (files : FontFiles) : Option (CText 512) × List DirCall :=
  match systemFonts.find? files.readable with
  | some candidate => (some (.print 512 candidate), [])
  | none => findFirstTtf files fontLevels fontDirectory

end SysdvrWebos
