/-
Module: SysdvrWebos.Proofs.LogDownload
Layer: Proofs
Purpose: `retrieve_log` is all or nothing. The loop only writes to the temporary file, and it ends well
  exactly if every read comes back and the limit is kept; the output file is only created by the move at
  the end, and the temporary file is gone in any case.
Trusted boundary: none (fully proved)
Main exports: RemoteLog.Complete, downloadLoop_other, downloadLoop_ok_iff, downloadLoop_ok,
  log_download_is_all_or_nothing
Open obligations: none
-/
import SysdvrWebos.Core.LogCollector

namespace SysdvrWebos

/-- The whole stream is read, and the error text behind it: no call on the channel raises. A read that is to
    raise comes after the one that finds the end of the stream. -/
structure RemoteLog.Complete (remote : RemoteLog) : Prop where
  opens : remote.opens = true
  reads : ∀ k ∈ remote.failsAt, remote.chunks.length < k
  stderr : remote.stderr.isSome = true

/-! ### The loop -/

section

variable {temp path : PyText} {failsAt : Option Nat} {chunks : List (List UInt8)} {total n : Nat}
  {files : Files PyText (List UInt8)}

theorem downloadLoop_fails :
    downloadLoop temp (some 0) chunks total files = (.error .connection, files) := by
  cases chunks <;> rfl

theorem downloadLoop_end (alive : failsAt ≠ some 0) :
    downloadLoop temp failsAt [] total files = (.ok total, files) := by
  cases failsAt with
  | none => rfl
  | some k =>
      cases k with
      | zero => exact absurd rfl alive
      | succ k => rfl

theorem downloadLoop_chunk (alive : failsAt ≠ some 0) (chunk : List UInt8) :
    downloadLoop temp failsAt (chunk :: chunks) total files =
      if total + chunk.length > maxLog then
        (.error (.collectorError "Log exceeds the 12 MiB safety limit.".toList), files)
      else
        downloadLoop temp (failsAt.map (· - 1)) chunks (total + chunk.length)
          (files.append temp chunk) := by
  cases failsAt with
  | none => rfl
  | some k =>
      cases k with
      | zero => exact absurd rfl alive
      | succ k => rfl

/-- The loop writes to the temporary file only. -/
theorem downloadLoop_other (other : path ≠ temp) :
    (downloadLoop temp failsAt chunks total files).2.read path = files.read path := by
  by_cases dead : failsAt = some 0
  · rw [dead, downloadLoop_fails]
  induction chunks generalizing failsAt total files with
  | nil => rw [downloadLoop_end dead]
  | cons chunk chunks ih =>
      rw [downloadLoop_chunk dead]
      split
      · rfl
      · by_cases next : failsAt.map (· - 1) = some 0
        · rw [next, downloadLoop_fails, Files.read_append_of_ne _ _ other]
        · rw [ih next, Files.read_append_of_ne _ _ other]

/-- After one read there is one read less up to the one that raises. -/
theorem later_iff {length : Nat} (alive : failsAt ≠ some 0) :
    (∀ k ∈ failsAt.map (· - 1), length < k) ↔ ∀ k ∈ failsAt, length + 1 < k := by
  cases failsAt with
  | none => simp
  | some k =>
      have positive : k ≠ 0 := fun zero => alive (congrArg some zero)
      simp only [Option.map_some, Option.mem_some, forall_eq']
      omega

/-- The loop ends well exactly if no read raises and the limit is kept. -/
theorem downloadLoop_ok_iff (kept : total ≤ maxLog) :
    (∃ n, (downloadLoop temp failsAt chunks total files).1 = .ok n) ↔
      (∀ k ∈ failsAt, chunks.length < k) ∧ total + chunks.flatten.length ≤ maxLog := by
  induction chunks generalizing failsAt total files with
  | nil =>
      by_cases dead : failsAt = some 0
      · rw [dead, downloadLoop_fails]
        simp
      · rw [downloadLoop_end dead]
        have positive : ∀ k ∈ failsAt, 0 < k := by
          intro k member
          exact Nat.pos_of_ne_zero fun zero => dead (zero ▸ member)
        simpa [kept] using positive
  | cons chunk chunks ih =>
      by_cases dead : failsAt = some 0
      · rw [dead, downloadLoop_fails]
        simp
      · rw [downloadLoop_chunk dead, List.length_cons, List.flatten_cons, List.length_append,
          ← Nat.add_assoc]
        split
        · next above =>
            have less : ¬ total + chunk.length + chunks.flatten.length ≤ maxLog := by omega
            exact ⟨fun ⟨_, ended⟩ => (nomatch ended), fun ⟨_, fits⟩ => absurd fits less⟩
        · next below => rw [ih (Nat.not_lt.mp below), later_iff dead]

/-- What it has then written, and counted. -/
theorem downloadLoop_ok {content : List UInt8} (there : files.read temp = some content)
    (ended : (downloadLoop temp failsAt chunks total files).1 = .ok n) :
    n = total + chunks.flatten.length ∧
      (downloadLoop temp failsAt chunks total files).2.read temp = some (content ++ chunks.flatten) := by
  induction chunks generalizing failsAt total files content with
  | nil =>
      by_cases dead : failsAt = some 0
      · rw [dead, downloadLoop_fails] at ended
        cases ended
      · rw [downloadLoop_end dead] at ended ⊢
        cases ended
        exact ⟨rfl, by rw [there, List.flatten_nil, List.append_nil]⟩
  | cons chunk chunks ih =>
      by_cases dead : failsAt = some 0
      · rw [dead, downloadLoop_fails] at ended
        cases ended
      · rw [downloadLoop_chunk dead] at ended ⊢
        split at ended
        · cases ended
        · next below =>
            rw [if_neg below]
            have written : (files.append temp chunk).read temp = some (content ++ chunk) := by
              rw [Files.read_append_self, there, Option.getD_some]
            rcases ih written ended with ⟨count, whole⟩
            rw [List.flatten_cons, List.length_append, ← Nat.add_assoc, ← List.append_assoc]
            exact ⟨count, whole⟩

end

/-! ### The download -/

variable {output temp path : PyText} {remote : RemoteLog} {files : Files PyText (List UInt8)}

theorem partName_ne (name : PyText) : partName name ≠ name := by
  intro same
  have longer := congrArg List.length same
  rw [partName, List.length_append] at longer
  have part : ".part".toList.length = 5 := rfl
  omega

/-- What the body of the `try` comes to: everything as it should be and the output file in place, or an
    exception and nothing written but to the temporary file. -/
inductive Downloaded (output temp : PyText) (remote : RemoteLog) (files : Files PyText (List UInt8)) :
    Except Raised PyText × Files PyText (List UInt8) → Prop where
  | returns {after : Files PyText (List UInt8)} (complete : remote.Complete) (some_ : remote.bytes ≠ [])
      (kept : remote.bytes.length ≤ maxLog) (succeeded : remote.exitStatus = 0)
      (written : after.read temp = some remote.bytes)
      (others : ∀ path, path ≠ temp → after.read path = files.read path) :
      Downloaded output temp remote files (.ok output, after.rename temp output)
  | raises {raised : Raised} {after : Files PyText (List UInt8)}
      (fails : ¬ (remote.Complete ∧ remote.bytes ≠ [] ∧ remote.bytes.length ≤ maxLog ∧
        remote.exitStatus = 0))
      (others : ∀ path, path ≠ temp → after.read path = files.read path) :
      Downloaded output temp remote files (.error raised, after)

theorem downloadTo_downloaded (output temp : PyText) (remote : RemoteLog)
    (files : Files PyText (List UInt8)) :
    Downloaded output temp remote files (downloadTo output temp remote files) := by
  unfold downloadTo
  split
  · next closed =>
      refine .raises ?_ fun _ _ => rfl
      rintro ⟨complete, _⟩
      rw [complete.opens] at closed
      cases closed
  next opens =>
  have opens : remote.opens = true := by simpa using opens
  have others : ∀ path, path ≠ temp →
      (downloadLoop temp remote.failsAt remote.chunks 0 (files.write temp [])).2.read path
        = files.read path := by
    intro path other
    rw [downloadLoop_other other, Files.read_write_of_ne _ _ other]
  have ends : (∃ n, (downloadLoop temp remote.failsAt remote.chunks 0 (files.write temp [])).1 = .ok n) ↔
      (∀ k ∈ remote.failsAt, remote.chunks.length < k) ∧ 0 + remote.chunks.flatten.length ≤ maxLog :=
    downloadLoop_ok_iff (Nat.zero_le _)
  have written : ∀ n, (downloadLoop temp remote.failsAt remote.chunks 0 (files.write temp [])).1 = .ok n →
      _ := fun n => downloadLoop_ok (n := n) (Files.read_write_self files [])
  rw [Nat.zero_add] at ends
  generalize downloadLoop temp remote.failsAt remote.chunks 0 (files.write temp []) = loop at *
  split
  · next raised after =>
      refine .raises ?_ others
      rintro ⟨complete, _, kept, _⟩
      rcases ends.mpr ⟨complete.reads, kept⟩ with ⟨n, ended⟩
      cases ended
  next total after =>
  rcases ends.mp ⟨total, rfl⟩ with ⟨reads, kept⟩
  rcases written total rfl with ⟨count, whole⟩
  rw [Nat.zero_add] at count
  rw [List.nil_append] at whole
  split
  · next noText =>
      refine .raises ?_ others
      rintro ⟨complete, _⟩
      have some_ := complete.stderr
      rw [noText] at some_
      cases some_
  · next error text =>
      split
      · next failed => exact .raises (fun all => failed all.2.2.2) others
      · next succeeded =>
          split
          · next nothing =>
              refine .raises ?_ others
              rintro ⟨_, some_, _⟩
              apply some_
              rw [RemoteLog.bytes, ← List.length_eq_zero_iff, ← count, nothing]
          · next something =>
              refine .returns ⟨opens, reads, by rw [text]; rfl⟩ ?_ kept (not_not.mp succeeded) whole others
              intro none_
              apply something
              rw [count, ← RemoteLog.bytes, none_]
              rfl

/-- The download returns the name of the output file exactly if the whole stream was read, has something in
    it and keeps to the limit, and the command succeeded; the file then has the remote bytes. Otherwise it
    raises and there is no such file. In any case the temporary file is gone and every other file is as it
    was. -/
theorem log_download_is_all_or_nothing (stamp ip : PyText) (remote : RemoteLog)
    (files : Files PyText (List UInt8)) (fresh : files.read (logName stamp ip) = none) :
    let output := logName stamp ip
    let result := (retrieveLog stamp ip remote files).1
    let after := (retrieveLog stamp ip remote files).2
    ((∃ path, result = .ok path) ↔ remote.Complete ∧ remote.bytes ≠ [] ∧
        remote.bytes.length ≤ maxLog ∧ remote.exitStatus = 0) ∧
      (∀ path, result = .ok path → path = output ∧ after.read output = some remote.bytes) ∧
      (∀ raised, result = .error raised → after.read output = none) ∧
      after.read (partName output) = none ∧
      ∀ path, path ≠ output → path ≠ partName output → after.read path = files.read path := by
  intro output result after
  have parts : output ≠ partName output := (partName_ne output).symm
  have downloaded := downloadTo_downloaded output (partName output) remote files
  change ((∃ path, (downloadTo output (partName output) remote files).1 = .ok path) ↔ _) ∧
    (∀ path, (downloadTo output (partName output) remote files).1 = .ok path → _) ∧
    (∀ raised, (downloadTo output (partName output) remote files).1 = .error raised → _) ∧ _
  have unlinked : after = (downloadTo output (partName output) remote files).2.unlink (partName output) :=
    rfl
  rw [unlinked]
  generalize downloadTo output (partName output) remote files = outcome at *
  cases downloaded with
  | @returns written complete some_ kept succeeded whole others =>
      refine ⟨⟨fun _ => ⟨complete, some_, kept, succeeded⟩, fun _ => ⟨output, rfl⟩⟩, ?_, nofun,
        Files.read_unlink_self _, ?_⟩
      · intro path same
        cases same
        exact ⟨rfl, by rw [Files.read_unlink_of_ne _ parts, Files.read_rename_target _ whole]⟩
      · intro path notOutput notPart
        rw [Files.read_unlink_of_ne _ notPart, Files.read_rename_of_ne _ notPart notOutput,
          others path notPart]
  | @raises raised written fails others =>
      refine ⟨⟨fun ⟨_, same⟩ => (nomatch same), fun all => absurd all fails⟩, nofun, ?_,
        Files.read_unlink_self _, ?_⟩
      · intro _ _
        rw [Files.read_unlink_of_ne _ parts, others output parts]
        exact fresh
      · intro path _ notPart
        rw [Files.read_unlink_of_ne _ notPart, others path notPart]

/-- A log of twelve bytes in two reads. -/
def shortLog : RemoteLog where
  opens := true
  chunks := ["example ".toList.map fun c => UInt8.ofNat c.toNat, "log\n".toList.map fun c =>
    UInt8.ofNat c.toNat]
  chunks_read := by decide
  failsAt := none
  exitStatus := 0
  stderr := some []

theorem shortLog_is_downloaded :
    ∃ path, (retrieveLog "20260101".toList "192.168.0.5".toList shortLog Files.empty).1 = .ok path := by
  apply (log_download_is_all_or_nothing "20260101".toList "192.168.0.5".toList shortLog Files.empty
    rfl).1.mpr
  exact ⟨⟨rfl, nofun, rfl⟩, by decide, by decide, rfl⟩

end SysdvrWebos
