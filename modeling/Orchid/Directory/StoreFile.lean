import Mathlib

/-!
# Orchid — a file of the directory store

`DirectoryStoreFile` writes, extends, reads and removes one file. Nothing it does raises: if the
file system refuses something, that is logged and the method returns. So each operation has an
argument here, `FileOutcome`, that says what the file system makes of it.

* A file is replaced by way of a temporary file, so a failed write leaves the old contents, unless
  the old file is gone already when the new one cannot be renamed.
* A failed append leaves a part of what was to be appended.
* **`Works`**: everything an operation needs is granted. `writeDocuments_works`,
  `appendDocuments_works` and `loadContents_works` say what the file holds or yields then.
-/

namespace Orchid

/-- What the file system does in the course of one operation. -/
structure FileOutcome where
  /-- The temporary file can be opened. -/
  tempOpens : Bool := true
  /-- How many bytes are written before an error; none if all of them are. -/
  written : Option Nat := none
  deletes : Bool := true
  renames : Bool := true
  /-- The file itself can be opened. -/
  opens : Bool := true
  reads : Bool := true

/-- All that writing and reading needs is granted. Deleting an old file may fail. -/
def FileOutcome.Works (fs : FileOutcome) : Prop :=
  fs.tempOpens = true ∧ fs.written = none ∧ fs.renames = true ∧ fs.opens = true ∧ fs.reads = true

instance (fs : FileOutcome) : Decidable fs.Works :=
  inferInstanceAs (Decidable (_ ∧ _ ∧ _ ∧ _ ∧ _))

/-- The file on disk, if there is one, and the state of the object. -/
structure DirectoryStoreFile where
  contents : Option (List UInt8) := none
  opened : Bool := false
  openFileFailed : Bool := false

namespace DirectoryStoreFile

variable (fs : FileOutcome)

def close (f : DirectoryStoreFile) : DirectoryStoreFile := { f with opened := false }

/-- `ensureOpened`. A file that does not exist is made, and one that cannot be opened is not tried
again. -/
def ensureOpened (f : DirectoryStoreFile) : DirectoryStoreFile × Bool :=
  if f.openFileFailed then (f, false)
  else if f.opened then (f, true)
  else if fs.opens then ({ f with opened := true, contents := some (f.contents.getD []) }, true)
  else ({ f with openFileFailed := true }, false)

def installTempFile (data : List UInt8) (f : DirectoryStoreFile) : DirectoryStoreFile :=
  let f := f.close
  let f := if fs.deletes then { f with contents := none } else f
  let f := if fs.renames then { f with contents := some data } else f
  (f.ensureOpened fs).1

/-- `writeDocuments`, with the texts of the documents one behind the other. -/
def writeDocuments (data : List UInt8) (f : DirectoryStoreFile) : DirectoryStoreFile :=
  if !fs.tempOpens then f
  else
    match fs.written with
    | some _ => f
    | none => f.installTempFile fs data

def appendDocuments (data : List UInt8) (f : DirectoryStoreFile) : DirectoryStoreFile :=
  let (f, opened) := f.ensureOpened fs
  if !opened then f
  else
    match fs.written with
    | some n => { f with contents := some (f.contents.getD [] ++ data.take n) }
    | none => { f with contents := some (f.contents.getD [] ++ data) }

def loadContents (f : DirectoryStoreFile) : DirectoryStoreFile × List UInt8 :=
  if f.contents.isNone then (f, [])
  else
    let (f, opened) := f.ensureOpened fs
    if !opened then (f, [])
    else if fs.reads then (f, f.contents.getD [])
    else (f, [])

def remove (f : DirectoryStoreFile) : DirectoryStoreFile :=
  let f := f.close
  if fs.deletes then { f with contents := none } else f

/-! ## When everything works -/

/-- What is in the file, for an object that can still open it. -/
def Contains (f : DirectoryStoreFile) (data : List UInt8) : Prop :=
  f.openFileFailed = false ∧ f.contents.getD [] = data

variable {fs} {f : DirectoryStoreFile} {data : List UInt8}

theorem Contains.ensureOpened (h : f.Contains data) (hopens : fs.opens = true) :
    (f.ensureOpened fs).2 = true ∧ (f.ensureOpened fs).1.Contains data := by
  obtain ⟨hfailed, hdata⟩ := h
  simp only [DirectoryStoreFile.ensureOpened, hfailed, hopens, Bool.false_eq_true, if_false,
    if_true]
  split
  · exact ⟨rfl, hfailed, hdata⟩
  · exact ⟨rfl, rfl, by simp [hdata]⟩

theorem writeDocuments_works (h : f.openFileFailed = false) (hfs : fs.Works) (new : List UInt8) :
    (f.writeDocuments fs new).Contains new := by
  obtain ⟨htemp, hwritten, hrenames, hopens, -⟩ := hfs
  simp only [writeDocuments, htemp, hwritten, installTempFile, hrenames, if_true, Bool.not_true,
    Bool.false_eq_true, if_false]
  have hcontains : ({ contents := some new, opened := false, openFileFailed := false } :
    DirectoryStoreFile).Contains new := ⟨rfl, rfl⟩
  cases fs.deletes <;> simpa [close, h] using (hcontains.ensureOpened hopens).2

theorem appendDocuments_works (h : f.Contains data) (hfs : fs.Works) (new : List UInt8) :
    (f.appendDocuments fs new).Contains (data ++ new) := by
  obtain ⟨-, hwritten, -, hopens, -⟩ := hfs
  obtain ⟨hopened, hfailed, hdata⟩ := h.ensureOpened hopens
  simp only [appendDocuments, hopened, hwritten, Bool.not_true, Bool.false_eq_true, if_false]
  exact ⟨hfailed, by simp [hdata]⟩

theorem loadContents_works (h : f.Contains data) (hfs : fs.Works) :
    (f.loadContents fs).2 = data ∧ (f.loadContents fs).1.Contains data := by
  obtain ⟨-, -, -, hopens, hreads⟩ := hfs
  obtain ⟨hopened, hopenable, hdata⟩ := h.ensureOpened hopens
  unfold loadContents
  split
  · rename_i hmissing
    rw [Option.isNone_iff_eq_none] at hmissing
    have hempty : [] = data := by
      rw [← h.2, hmissing]
      rfl
    exact ⟨hempty, h⟩
  · simp only [hopened, Bool.not_true, Bool.false_eq_true, if_false]
    exact ⟨hdata, hopenable, hdata⟩

/-- A removed file is empty or, if it could not be deleted, as before. -/
theorem Contains.remove (h : f.Contains data) (fs : FileOutcome) :
    (f.remove fs).Contains [] ∨ (f.remove fs).Contains data := by
  unfold DirectoryStoreFile.remove
  cases fs.deletes with
  | true => exact Or.inl ⟨h.1, rfl⟩
  | false => exact Or.inr h

end DirectoryStoreFile

end Orchid
