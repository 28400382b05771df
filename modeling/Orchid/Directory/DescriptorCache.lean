import Orchid.Directory.PendingConsensus
import Orchid.Directory.StoreFile

/-!
# Orchid — the cache of descriptors

`DescriptorCache` keeps descriptors in memory and their texts in two files: what is added goes to
the journal, and from time to time everything in memory is written to the cache file, the journal
is removed and both are loaded anew. A restart loads them too.

* `DescriptorCacheData` is the memory: a table and a list of the same descriptors.
* `CacheHistory` adds to the cache which descriptors it owes: those added and not expired when the
  cache was cleaned.
* **`live_descriptors_found`**: if the file operations work, and expired descriptors are only
  cleaned from a cache with no others, every owed descriptor is found.
* **`cleanExpired_iff`**: cleaning does what it is meant to do if nothing has expired.
* **`live_descriptors_lost`**: one expired descriptor takes all others with it, and one that could
  not be appended is gone after a restart.
-/

namespace Orchid

open Sample

/-! ## Descriptors in memory -/

/-- A `Descriptor` as far as its cache uses it, with the parser of its texts: the documents, if the
result is okay. -/
class StoredDescriptor (T : Type) where
  getDescriptorDigest : T → HexDigest
  getRawDocumentBytes : T → List UInt8
  parse : List UInt8 → Option (List T)

inductive CacheLocation where
  | NOT_CACHED
  | CACHED_CACHEFILE
  | CACHED_JOURNAL
deriving DecidableEq

/-- A descriptor object, with the fields that are set from outside. -/
structure CachedDescriptor (T : Type) where
  descriptor : T
  lastListed : Int := 0
  cacheLocation : CacheLocation := .NOT_CACHED

variable {T : Type} [StoredDescriptor T]

namespace CachedDescriptor

def getDescriptorDigest (d : CachedDescriptor T) : HexDigest :=
  StoredDescriptor.getDescriptorDigest d.descriptor

def getRawDocumentBytes (d : CachedDescriptor T) : List UInt8 :=
  StoredDescriptor.getRawDocumentBytes d.descriptor

/-- `getBodyLength`; the charset has one byte for each character. -/
def getBodyLength (d : CachedDescriptor T) : Int := d.getRawDocumentBytes.length

/-- Seven days. -/
def EXPIRY_PERIOD : Int := 7 * 24 * 60 * 60 * 1000

def isExpired (now : Int) (d : CachedDescriptor T) : Bool :=
  d.lastListed ≠ 0 && d.lastListed < now - EXPIRY_PERIOD

end CachedDescriptor

/-- `DescriptorCacheData`. The table finds the objects of the list. -/
structure DescriptorCacheData (T : Type) [StoredDescriptor T] where
  descriptorMap : JMap HexDigest (CachedDescriptor T) := ∅
  allDescriptors : List (CachedDescriptor T) := []
  filed : ∀ digest, descriptorMap.lookup digest =
    allDescriptors.find? (·.getDescriptorDigest = digest)

namespace DescriptorCacheData

def clear : DescriptorCacheData T :=
  ⟨∅, [], fun digest => by rw [AList.lookup_empty]; rfl⟩

def findByDigest (digest : HexDigest) (data : DescriptorCacheData T) :
    Option (CachedDescriptor T) :=
  data.descriptorMap.lookup digest

/-- `addDescriptor`: whether the descriptor is new. -/
def addDescriptor (d : CachedDescriptor T) (data : DescriptorCacheData T) :
    DescriptorCacheData T × Bool :=
  if hnew : data.descriptorMap.lookup d.getDescriptorDigest = none then
    ({ descriptorMap := data.descriptorMap.insert d.getDescriptorDigest d
       allDescriptors := data.allDescriptors ++ [d]
       filed := by
        intro digest
        rw [List.find?_append, ← data.filed digest]
        rcases eq_or_ne d.getDescriptorDigest digest with rfl | hdigest
        · rw [AList.lookup_insert, hnew]
          simp
        · rw [AList.lookup_insert_ne (Ne.symm hdigest)]
          simp [hdigest] },
      true)
  else (data, false)

def getExpiredSet (now : Int) (data : DescriptorCacheData T) : List (CachedDescriptor T) :=
  data.allDescriptors.filter (·.isExpired now)

/-- `cleanExpired`: what is left, and the bytes dropped. The list that the loop runs over is the
one that has just been cleared. -/
def cleanExpired (now : Int) (data : DescriptorCacheData T) : DescriptorCacheData T × Int :=
  let expired := data.getExpiredSet now
  if expired.isEmpty then (data, 0)
  else
    let data : DescriptorCacheData T := clear
    data.allDescriptors.foldl
      (fun (data, dropped) d =>
        if expired.any (·.getDescriptorDigest = d.getDescriptorDigest) then
          (data, javaInt (dropped + d.getBodyLength))
        else ((data.addDescriptor d).1, dropped))
      (data, 0)

variable {digest : HexDigest} {d : CachedDescriptor T}

theorem of_lookup_eq_some {data : DescriptorCacheData T}
    (hlookup : data.descriptorMap.lookup digest = some d) :
    d ∈ data.allDescriptors ∧ d.getDescriptorDigest = digest := by
  rw [data.filed digest] at hlookup
  exact ⟨List.mem_of_find?_eq_some hlookup, by simpa using List.find?_some hlookup⟩

/-- The object of a descriptor, told when it was listed. -/
def listedAt (digest : HexDigest) (timestamp : Int) (d : CachedDescriptor T) :
    CachedDescriptor T :=
  if d.getDescriptorDigest = digest then { d with lastListed := timestamp } else d

variable (digest : HexDigest)

theorem listedAt_digest (timestamp : Int) (d : CachedDescriptor T) :
    (listedAt digest timestamp d).getDescriptorDigest = d.getDescriptorDigest := by
  unfold listedAt
  split <;> rfl

theorem find?_listedAt (digest' : HexDigest) (timestamp : Int) (l : List (CachedDescriptor T)) :
    (l.map (listedAt digest timestamp)).find? (·.getDescriptorDigest = digest') =
      (l.find? (·.getDescriptorDigest = digest')).map (listedAt digest timestamp) := by
  rw [List.find?_map]
  congr 2
  funext d
  simp only [Function.comp_apply, listedAt_digest]

/-- A consensus tells a descriptor when it was listed. -/
def setLastListed (digest : HexDigest) (timestamp : Int) (data : DescriptorCacheData T) :
    DescriptorCacheData T :=
  match hlookup : data.descriptorMap.lookup digest with
  | none => data
  | some d =>
    { descriptorMap := data.descriptorMap.insert digest (listedAt digest timestamp d)
      allDescriptors := data.allDescriptors.map (listedAt digest timestamp)
      filed := by
        intro digest'
        rw [find?_listedAt, ← data.filed digest']
        rcases eq_or_ne digest' digest with rfl | hdigest
        · rw [AList.lookup_insert, hlookup]
          rfl
        · rw [AList.lookup_insert_ne hdigest]
          cases hother : data.descriptorMap.lookup digest' with
          | none => rfl
          | some other =>
            simp [listedAt, (of_lookup_eq_some hother).2, hdigest] }

/-! What is found is what is in the list, so the digests of the list are all that matters. -/

def digests (data : DescriptorCacheData T) : List HexDigest :=
  data.allDescriptors.map (·.getDescriptorDigest)

variable {digest : HexDigest}

theorem findByDigest_of_mem {data : DescriptorCacheData T} (hdigest : digest ∈ data.digests) :
    ∃ d, data.findByDigest digest = some d ∧ d.getDescriptorDigest = digest := by
  obtain ⟨d, hd, rfl⟩ := List.mem_map.mp hdigest
  have hsome : (data.allDescriptors.find?
      (·.getDescriptorDigest = d.getDescriptorDigest)).isSome = true := by
    rw [List.find?_isSome]
    exact ⟨d, hd, by simp⟩
  rw [← data.filed] at hsome
  obtain ⟨found, hfound⟩ := Option.isSome_iff_exists.mp hsome
  exact ⟨found, hfound, (of_lookup_eq_some hfound).2⟩

theorem mem_digests_of_lookup {data : DescriptorCacheData T}
    (hknown : data.descriptorMap.lookup digest ≠ none) : digest ∈ data.digests := by
  obtain ⟨d, hd⟩ := Option.ne_none_iff_exists'.mp hknown
  exact List.mem_map.mpr ⟨d, of_lookup_eq_some hd⟩

/-- A descriptor is added at the end, or another of its digest is there. -/
theorem addDescriptor_cases (d : CachedDescriptor T) (data : DescriptorCacheData T) :
    ((data.addDescriptor d).2 = true ∧
        (data.addDescriptor d).1.allDescriptors = data.allDescriptors ++ [d]) ∨
      (data.addDescriptor d = (data, false) ∧ d.getDescriptorDigest ∈ data.digests) := by
  unfold addDescriptor
  split
  · exact Or.inl ⟨rfl, rfl⟩
  · rename_i hknown
    exact Or.inr ⟨rfl, mem_digests_of_lookup hknown⟩

theorem mem_digests_addDescriptor (d : CachedDescriptor T) (data : DescriptorCacheData T) :
    digest ∈ (data.addDescriptor d).1.digests ↔
      digest ∈ data.digests ∨ digest = d.getDescriptorDigest := by
  rcases addDescriptor_cases d data with ⟨-, hall⟩ | ⟨hsame, hmem⟩
  · simp only [digests, hall, List.map_append, List.mem_append, List.map_cons, List.map_nil,
      List.mem_singleton]
  · rw [hsame]
    constructor
    · exact Or.inl
    · rintro (hold | rfl)
      · exact hold
      · exact hmem

@[simp] theorem digests_setLastListed (timestamp : Int)
    (data : DescriptorCacheData T) : (data.setLastListed digest timestamp).digests = data.digests := by
  unfold setLastListed
  split
  · rfl
  · simp only [digests, List.map_map]
    congr 1
    funext d
    exact listedAt_digest digest timestamp d

/-- Nothing is left as soon as one descriptor has expired. -/
theorem cleanExpired_eq (now : Int) (data : DescriptorCacheData T) :
    data.cleanExpired now =
      if ∀ d ∈ data.allDescriptors, d.isExpired now = false then (data, 0) else (clear, 0) := by
  have hempty : (data.getExpiredSet now).isEmpty = true ↔
      ∀ d ∈ data.allDescriptors, d.isExpired now = false := by
    simp [getExpiredSet, List.filter_eq_nil_iff]
  unfold cleanExpired
  simp only [hempty]
  rfl

end DescriptorCacheData

/-! ## The cache -/

/-- What the file system does while the cache is loaded and rebuilt. -/
structure RebuildOutcome where
  write : FileOutcome := {}
  remove : FileOutcome := {}
  loadCache : FileOutcome := {}
  loadJournal : FileOutcome := {}

/-- `DescriptorCache`, with its two files of the store. -/
structure DescriptorCache (T : Type) [StoredDescriptor T] where
  data : DescriptorCacheData T := .clear
  cacheFile : DirectoryStoreFile
  journalFile : DirectoryStoreFile
  droppedBytes : Int := 0
  journalLength : Int := 0
  cacheLength : Int := 0
  initiallyLoaded : Bool := false

namespace DescriptorCache

def getDescriptor (digest : HexDigest) (s : DescriptorCache T) : Option (CachedDescriptor T) :=
  s.data.findByDigest digest

/-- One round of the loop of `addDescriptors`. -/
def addOne (s : DescriptorCache T) (journalDescriptors : List (CachedDescriptor T))
    (d : CachedDescriptor T) : DescriptorCache T × List (CachedDescriptor T) :=
  match s.data.addDescriptor d with
  | (data, true) =>
    if d.cacheLocation = .NOT_CACHED then
      ({ s with data, journalLength := javaInt (s.journalLength + d.getBodyLength) },
        journalDescriptors ++ [d])
    else ({ s with data }, journalDescriptors)
  | (_, false) => (s, journalDescriptors)

def addLoop (s : DescriptorCache T) (journalDescriptors : List (CachedDescriptor T)) :
    List (CachedDescriptor T) → DescriptorCache T × List (CachedDescriptor T)
  | [] => (s, journalDescriptors)
  | d :: rest =>
    let (s, journalDescriptors) := s.addOne journalDescriptors d
    s.addLoop journalDescriptors rest

/-- The texts of the descriptors, one behind the other. -/
def texts (l : List (CachedDescriptor T)) : List UInt8 :=
  l.flatMap (·.getRawDocumentBytes)

def addDescriptors (fs : FileOutcome) (descriptors : List (CachedDescriptor T))
    (s : DescriptorCache T) : DescriptorCache T :=
  let (s, journalDescriptors) := s.addLoop [] descriptors
  if journalDescriptors.isEmpty then s
  else { s with journalFile := s.journalFile.appendDocuments fs (texts journalDescriptors) }

def clearMemoryCache (s : DescriptorCache T) : DescriptorCache T :=
  { s with data := .clear, journalLength := 0, cacheLength := 0, droppedBytes := 0 }

/-- The documents of a buffer are added with where they come from. -/
def loadBuffer (location : CacheLocation) (buffer : List UInt8) (data : DescriptorCacheData T) :
    DescriptorCacheData T :=
  if buffer.length = 0 then data
  else
    match (StoredDescriptor.parse buffer : Option (List T)) with
    | none => data
    | some documents =>
      documents.foldl (fun data t => (data.addDescriptor ⟨t, 0, location⟩).1) data

def loadCacheFileBuffer (buffer : List UInt8) (s : DescriptorCache T) : DescriptorCache T :=
  { s with cacheLength := buffer.length, data := loadBuffer .CACHED_CACHEFILE buffer s.data }

def loadJournalFileBuffer (buffer : List UInt8) (s : DescriptorCache T) : DescriptorCache T :=
  { s with journalLength := buffer.length, data := loadBuffer .CACHED_JOURNAL buffer s.data }

def reloadCache (fs : RebuildOutcome) (s : DescriptorCache T) : DescriptorCache T :=
  let s := s.clearMemoryCache
  let (cacheFile, cacheBuffer) := s.cacheFile.loadContents fs.loadCache
  let (journalFile, journalBuffer) := s.journalFile.loadContents fs.loadJournal
  let s := { s with cacheFile, journalFile }
  let s := s.loadCacheFileBuffer cacheBuffer
  let s := s.loadJournalFileBuffer journalBuffer
  { s with initiallyLoaded := true }

def initialLoad (fs : RebuildOutcome) (s : DescriptorCache T) : DescriptorCache T :=
  if s.initiallyLoaded then s else s.reloadCache fs

def shouldRebuildCache (s : DescriptorCache T) : Bool :=
  if s.journalLength < 16384 then false
  else if s.droppedBytes > (javaInt (s.journalLength + s.cacheLength)).tdiv 3 then true
  else s.journalLength > s.cacheLength.tdiv 2

def rebuildCache (fs : RebuildOutcome) (s : DescriptorCache T) : DescriptorCache T :=
  let s := { s with
    cacheFile := s.cacheFile.writeDocuments fs.write (texts s.data.allDescriptors)
    journalFile := s.journalFile.remove fs.remove }
  s.reloadCache fs

def maybeRebuildCache (now : Int) (fs : RebuildOutcome) (s : DescriptorCache T) :
    DescriptorCache T :=
  if !s.initiallyLoaded then s
  else
    let (data, dropped) := s.data.cleanExpired now
    let s := { s with data, droppedBytes := javaInt (s.droppedBytes + dropped) }
    if !s.shouldRebuildCache then s else s.rebuildCache fs

/-- A fresh cache on the same store. -/
def restart (s : DescriptorCache T) : DescriptorCache T :=
  { cacheFile := s.cacheFile, journalFile := s.journalFile }

/-! ## What the files hold

Both files consist of whole texts, and a text that was stored is parsed to the descriptor it came
from. -/

def documentTexts (l : List T) : List UInt8 :=
  l.flatMap StoredDescriptor.getRawDocumentBytes

def documentDigests (l : List T) : List HexDigest :=
  l.map StoredDescriptor.getDescriptorDigest

/-- Texts one behind the other are parsed to their descriptors. -/
def ParsesBack (T : Type) [StoredDescriptor T] : Prop :=
  ∀ l : List T, l ≠ [] → StoredDescriptor.parse (documentTexts l) = some l

/-- The files consist of the texts of these descriptors. -/
structure Stored (s : DescriptorCache T) (cached journal : List T) : Prop where
  cacheFile : s.cacheFile.Contains (documentTexts cached)
  journalFile : s.journalFile.Contains (documentTexts journal)

theorem texts_eq (l : List (CachedDescriptor T)) : texts l = documentTexts (l.map (·.descriptor)) := by
  simp only [texts, documentTexts, List.flatMap_map]
  rfl

theorem digests_eq (data : DescriptorCacheData T) :
    data.digests = documentDigests (data.allDescriptors.map (·.descriptor)) := by
  simp only [DescriptorCacheData.digests, documentDigests, List.map_map]
  rfl

/-- Texts are not empty: two of them would be parsed as one. -/
theorem ParsesBack.texts_ne_nil (hparse : ParsesBack T) {l : List T} (hl : l ≠ []) :
    documentTexts l ≠ [] := by
  intro hempty
  have hdouble : documentTexts (l ++ l) = documentTexts l := by
    simp only [documentTexts, List.flatMap_append] at hempty ⊢
    rw [hempty]
    rfl
  have hsame : some l = some (l ++ l) := by
    rw [← hparse l hl, ← hparse (l ++ l) (by simp [hl]), hdouble]
  exact hl (List.append_right_eq_self.mp (Option.some.inj hsame).symm)

theorem mem_digests_foldl (location : CacheLocation) (documents : List T)
    (data : DescriptorCacheData T) :
    digest ∈ (documents.foldl
        (fun data t => (data.addDescriptor ⟨t, 0, location⟩).1) data).digests ↔
      digest ∈ data.digests ∨ digest ∈ documentDigests documents := by
  induction documents generalizing data with
  | nil => simp [documentDigests]
  | cons t rest ih =>
    rw [List.foldl_cons, ih, DescriptorCacheData.mem_digests_addDescriptor]
    simp only [documentDigests, List.map_cons, List.mem_cons, or_assoc]
    rfl

theorem ParsesBack.mem_digests_loadBuffer (hparse : ParsesBack T) (location : CacheLocation)
    (documents : List T) (data : DescriptorCacheData T) :
    digest ∈ (loadBuffer location (documentTexts documents) data).digests ↔
      digest ∈ data.digests ∨ digest ∈ documentDigests documents := by
  unfold loadBuffer
  by_cases hnone : documents = []
  · subst hnone
    simp [documentTexts, documentDigests]
  · rw [if_neg (by simpa using hparse.texts_ne_nil hnone), hparse documents hnone]
    exact mem_digests_foldl location documents data

variable {s : DescriptorCache T} {cached journal : List T} {fs : RebuildOutcome}

/-- **Loading** finds the descriptors of both files. -/
theorem Stored.reloadCache (hparse : ParsesBack T) (h : s.Stored cached journal)
    (hcache : fs.loadCache.Works) (hjournal : fs.loadJournal.Works) :
    (s.reloadCache fs).Stored cached journal ∧ (s.reloadCache fs).initiallyLoaded = true ∧
      ∀ digest, digest ∈ (s.reloadCache fs).data.digests ↔
        digest ∈ documentDigests cached ∨ digest ∈ documentDigests journal := by
  obtain ⟨hcacheBuffer, hcacheFile⟩ := DirectoryStoreFile.loadContents_works h.cacheFile hcache
  obtain ⟨hjournalBuffer, hjournalFile⟩ :=
    DirectoryStoreFile.loadContents_works h.journalFile hjournal
  refine ⟨⟨hcacheFile, hjournalFile⟩, rfl, fun digest => ?_⟩
  show digest ∈ (loadBuffer .CACHED_JOURNAL (s.journalFile.loadContents fs.loadJournal).2
    (loadBuffer .CACHED_CACHEFILE (s.cacheFile.loadContents fs.loadCache).2 .clear)).digests ↔ _
  rw [hcacheBuffer, hjournalBuffer, hparse.mem_digests_loadBuffer, hparse.mem_digests_loadBuffer]
  simp [DescriptorCacheData.digests, DescriptorCacheData.clear]

/-- **Rebuilding** writes what is in memory and loads it. -/
theorem Stored.rebuildCache (hparse : ParsesBack T) (h : s.Stored cached journal)
    (hwrite : fs.write.Works) (hcache : fs.loadCache.Works) (hjournal : fs.loadJournal.Works) :
    ∃ cached' journal', (s.rebuildCache fs).Stored cached' journal' ∧
      (s.rebuildCache fs).initiallyLoaded = true ∧
      (∀ digest, digest ∈ (s.rebuildCache fs).data.digests ↔
        digest ∈ documentDigests cached' ∨ digest ∈ documentDigests journal') ∧
      ∀ digest ∈ s.data.digests, digest ∈ documentDigests cached' := by
  let cached' := s.data.allDescriptors.map (·.descriptor)
  have hcached : (s.cacheFile.writeDocuments fs.write (texts s.data.allDescriptors)).Contains
      (documentTexts cached') := by
    rw [texts_eq]
    exact DirectoryStoreFile.writeDocuments_works h.cacheFile.1 hwrite _
  have hkept : ∀ digest ∈ s.data.digests, digest ∈ documentDigests cached' := by
    intro digest hdigest
    rwa [← digests_eq]
  -- the journal is empty, or it was not removed
  have hremoved : ∃ journal' : List T,
      (s.journalFile.remove fs.remove).Contains (documentTexts journal') := by
    rcases h.journalFile.remove fs.remove with hempty | hold
    · exact ⟨[], hempty⟩
    · exact ⟨journal, hold⟩
  obtain ⟨journal', hremoved⟩ := hremoved
  have hstored : Stored { s with
      cacheFile := s.cacheFile.writeDocuments fs.write (texts s.data.allDescriptors)
      journalFile := s.journalFile.remove fs.remove } cached' journal' := ⟨hcached, hremoved⟩
  obtain ⟨hstored', hloaded, hmem⟩ := hstored.reloadCache hparse hcache hjournal
  exact ⟨cached', journal', hstored', hloaded, hmem, hkept⟩

/-! ## Adding descriptors -/

/-- What the loop leaves: new descriptors are in memory and noted for the journal. -/
structure Gained (s : DescriptorCache T) (journalDescriptors descriptors : List (CachedDescriptor T))
    (r : DescriptorCache T × List (CachedDescriptor T)) (new : List (CachedDescriptor T)) :
    Prop where
  memory : r.1.data.allDescriptors = s.data.allDescriptors ++ new
  noted : r.2 = journalDescriptors ++ new
  known : ∀ d ∈ descriptors, d.getDescriptorDigest ∈ r.1.data.digests
  cacheFile : r.1.cacheFile = s.cacheFile
  journalFile : r.1.journalFile = s.journalFile
  initiallyLoaded : r.1.initiallyLoaded = s.initiallyLoaded

theorem addOne_gained (s : DescriptorCache T) (journalDescriptors : List (CachedDescriptor T))
    (hlocation : d.cacheLocation = .NOT_CACHED) :
    ∃ new, Gained s journalDescriptors [d] (s.addOne journalDescriptors d) new := by
  unfold addOne
  rcases DescriptorCacheData.addDescriptor_cases d s.data with ⟨hadded, hall⟩ | ⟨hsame, hmem⟩
  · have hpair : s.data.addDescriptor d = ((s.data.addDescriptor d).1, true) :=
      Prod.ext rfl hadded
    rw [hpair]
    simp only [hlocation, if_true]
    refine ⟨[d], hall, rfl, List.forall_mem_singleton.mpr ?_, rfl, rfl, rfl⟩
    exact (DescriptorCacheData.mem_digests_addDescriptor d s.data).mpr (Or.inr rfl)
  · rw [hsame]
    exact ⟨[], by simp, by simp, List.forall_mem_singleton.mpr hmem, rfl, rfl, rfl⟩

theorem addLoop_cons (s : DescriptorCache T) (journalDescriptors : List (CachedDescriptor T))
    (d : CachedDescriptor T) (rest : List (CachedDescriptor T)) :
    s.addLoop journalDescriptors (d :: rest) =
      (s.addOne journalDescriptors d).1.addLoop (s.addOne journalDescriptors d).2 rest := rfl

variable {descriptors : List (CachedDescriptor T)}

/-- Induction on the descriptors. -/
theorem addLoop_gained (s : DescriptorCache T) (journalDescriptors : List (CachedDescriptor T))
    (hlocation : ∀ d ∈ descriptors, d.cacheLocation = .NOT_CACHED) :
    ∃ new, Gained s journalDescriptors descriptors (s.addLoop journalDescriptors descriptors) new := by
  induction descriptors generalizing s journalDescriptors with
  | nil => exact ⟨[], by simp [addLoop], by simp [addLoop], by simp, rfl, rfl, rfl⟩
  | cons d rest ih =>
    obtain ⟨first, hfirst⟩ := addOne_gained s journalDescriptors (hlocation d List.mem_cons_self)
    obtain ⟨more, hmore⟩ := ih (s.addOne journalDescriptors d).1
      (s.addOne journalDescriptors d).2 fun d' hd' => hlocation d' (List.mem_cons_of_mem d hd')
    rw [addLoop_cons]
    refine ⟨first ++ more, ?_, ?_, ?_, hmore.cacheFile.trans hfirst.cacheFile,
      hmore.journalFile.trans hfirst.journalFile,
      hmore.initiallyLoaded.trans hfirst.initiallyLoaded⟩
    · exact hmore.memory.trans (by rw [hfirst.memory, List.append_assoc])
    · exact hmore.noted.trans (by rw [hfirst.noted, List.append_assoc])
    · intro d' hd'
      rcases List.mem_cons.mp hd' with rfl | hrest
      · have hthere := hfirst.known d' List.mem_cons_self
        simp only [DescriptorCacheData.digests] at hthere ⊢
        rw [hmore.memory, List.map_append]
        exact List.mem_append_left _ hthere
      · exact hmore.known d' hrest

variable {fs : FileOutcome}

/-- **Adding** appends what is new to the journal. -/
theorem Stored.addDescriptors (h : s.Stored cached journal) (hfs : fs.Works)
    (hlocation : ∀ d ∈ descriptors, d.cacheLocation = .NOT_CACHED) :
    ∃ new, (s.addDescriptors fs descriptors).Stored cached (journal ++ new) ∧
      (s.addDescriptors fs descriptors).initiallyLoaded = s.initiallyLoaded ∧
      (s.addDescriptors fs descriptors).data.digests = s.data.digests ++ documentDigests new ∧
      ∀ d ∈ descriptors, d.getDescriptorDigest ∈ (s.addDescriptors fs descriptors).data.digests := by
  obtain ⟨new, hgained⟩ := addLoop_gained s [] hlocation
  have hdigests : (s.addLoop [] descriptors).1.data.digests =
      s.data.digests ++ documentDigests (new.map (·.descriptor)) := by
    rw [digests_eq, digests_eq, hgained.memory, List.map_append]
    exact List.map_append
  refine ⟨new.map (·.descriptor), ?_⟩
  unfold DescriptorCache.addDescriptors
  dsimp only
  split
  · rename_i hnothing
    rw [List.isEmpty_iff, hgained.noted] at hnothing
    have hnew : new = [] := hnothing
    subst hnew
    refine ⟨⟨?_, ?_⟩, hgained.initiallyLoaded, hdigests, hgained.known⟩
    · rw [hgained.cacheFile]
      exact h.cacheFile
    · rw [hgained.journalFile, List.map_nil, List.append_nil]
      exact h.journalFile
  · refine ⟨⟨?_, ?_⟩, hgained.initiallyLoaded, hdigests, hgained.known⟩
    · show (s.addLoop [] descriptors).1.cacheFile.Contains _
      rw [hgained.cacheFile]
      exact h.cacheFile
    · show ((s.addLoop [] descriptors).1.journalFile.appendDocuments fs _).Contains _
      have htexts : documentTexts (journal ++ new.map (·.descriptor)) =
          documentTexts journal ++ texts new := by
        rw [texts_eq]
        exact List.flatMap_append
      rw [hgained.journalFile, hgained.noted, List.nil_append, htexts]
      exact DirectoryStoreFile.appendDocuments_works h.journalFile hfs _

end DescriptorCache

/-! ## Histories -/

/-- The cache, with the digests of the descriptors that it is to find. -/
structure CacheHistory (T : Type) [StoredDescriptor T] where
  cache : DescriptorCache T
  owed : List HexDigest := []

inductive CacheEvent (T : Type) where
  | addDescriptors (descriptors : List (CachedDescriptor T)) (fs : FileOutcome)
  | setLastListed (digest : HexDigest) (timestamp : Int)
  | maybeRebuildCache (now : Int) (fs : RebuildOutcome)
  | restart
  | initialLoad (fs : RebuildOutcome)

namespace CacheHistory

open DescriptorCache DescriptorCacheData

/-- What has expired is no longer owed once the cache is cleaned. -/
def forgive (now : Int) (s : CacheHistory T) : List HexDigest :=
  if s.cache.initiallyLoaded then
    s.owed.filter fun digest => !(s.cache.getDescriptor digest).any (·.isExpired now)
  else s.owed

def step (s : CacheHistory T) : CacheEvent T → Option (CacheHistory T)
  | .addDescriptors descriptors fs =>
    some ⟨s.cache.addDescriptors fs descriptors, s.owed ++ descriptors.map (·.getDescriptorDigest)⟩
  | .setLastListed digest timestamp =>
    some { s with cache.data := s.cache.data.setLastListed digest timestamp }
  | .maybeRebuildCache now fs => some ⟨s.cache.maybeRebuildCache now fs, s.forgive now⟩
  | .restart => some { s with cache := s.cache.restart }
  | .initialLoad fs => some { s with cache := s.cache.initialLoad fs }

/-- Once the cache is loaded, all that is owed is found, each under its digest. -/
def AllFound (s : CacheHistory T) : Prop :=
  s.cache.initiallyLoaded = true → ∀ digest ∈ s.owed,
    ∃ d, s.cache.getDescriptor digest = some d ∧ d.getDescriptorDigest = digest

/-- What is asked of an event: the file operations work; descriptors are handed in as parsed, not
as loaded from a file; and when some descriptor has expired, all have. -/
def Survives (s : CacheHistory T) : CacheEvent T → Prop
  | .addDescriptors descriptors fs =>
    fs.Works ∧ ∀ d ∈ descriptors, d.cacheLocation = .NOT_CACHED
  | .maybeRebuildCache now fs =>
    (fs.write.Works ∧ fs.loadCache.Works ∧ fs.loadJournal.Works) ∧
      ((∀ d ∈ s.cache.data.allDescriptors, d.isExpired now = false) ∨
        ∀ d ∈ s.cache.data.allDescriptors, d.isExpired now = true)
  | .initialLoad fs => fs.loadCache.Works ∧ fs.loadJournal.Works
  | _ => True

instance (s : CacheHistory T) (event : CacheEvent T) : Decidable (Survives s event) := by
  unfold Survives
  split <;> infer_instance

/-- What is in memory and what is owed is in the files, and once loaded what is owed is in
memory. -/
structure Inv (s : CacheHistory T) (cached journal : List T) : Prop where
  stored : s.cache.Stored cached journal
  memory : ∀ digest ∈ s.cache.data.digests,
    digest ∈ documentDigests cached ∨ digest ∈ documentDigests journal
  owed : ∀ digest ∈ s.owed, digest ∈ documentDigests cached ∨ digest ∈ documentDigests journal
  loaded : s.cache.initiallyLoaded = true → ∀ digest ∈ s.owed, digest ∈ s.cache.data.digests

variable {s s' : CacheHistory T} {cached journal : List T}

theorem Inv.allFound (h : s.Inv cached journal) : s.AllFound := by
  intro hloaded digest hdigest
  exact findByDigest_of_mem (h.loaded hloaded digest hdigest)

theorem Inv.addDescriptors (h : s.Inv cached journal) (hfs : fs.Works)
    (hlocation : ∀ d ∈ descriptors, d.cacheLocation = .NOT_CACHED) :
    ∃ journal', Inv ⟨s.cache.addDescriptors fs descriptors,
      s.owed ++ descriptors.map (·.getDescriptorDigest)⟩ cached journal' := by
  obtain ⟨new, hstored, hloaded, hdigests, hknown⟩ := h.stored.addDescriptors hfs hlocation
  have hfiled : ∀ digest, digest ∈ documentDigests (journal ++ new) ↔
      digest ∈ documentDigests journal ∨ digest ∈ documentDigests new := by
    simp [documentDigests]
  have hmemory : ∀ digest ∈ (s.cache.addDescriptors fs descriptors).data.digests,
      digest ∈ documentDigests cached ∨ digest ∈ documentDigests (journal ++ new) := by
    intro digest hdigest
    rw [hdigests, List.mem_append] at hdigest
    rw [hfiled, ← or_assoc]
    exact hdigest.imp_left (h.memory digest)
  refine ⟨journal ++ new, hstored, hmemory, ?_, ?_⟩
  · intro digest hdigest
    rcases List.mem_append.mp hdigest with hold | hadded
    · rw [hfiled, ← or_assoc]
      exact Or.inl (h.owed digest hold)
    · obtain ⟨d, hd, rfl⟩ := List.mem_map.mp hadded
      exact hmemory _ (hknown d hd)
  · intro hnow digest hdigest
    rcases List.mem_append.mp hdigest with hold | hadded
    · rw [hdigests]
      exact List.mem_append_left _ (h.loaded (hloaded ▸ hnow) digest hold)
    · obtain ⟨d, hd, rfl⟩ := List.mem_map.mp hadded
      exact hknown d hd

/-- What is owed after the cleaning is in memory after the cleaning. -/
theorem Inv.cleaned (h : s.Inv cached journal) (hloaded : s.cache.initiallyLoaded = true)
    {now : Int} (hexpired : (∀ d ∈ s.cache.data.allDescriptors, d.isExpired now = false) ∨
      ∀ d ∈ s.cache.data.allDescriptors, d.isExpired now = true) :
    ∀ digest ∈ s.forgive now, digest ∈ (s.cache.data.cleanExpired now).1.digests := by
  intro digest hdigest
  simp only [forgive, hloaded, if_true, List.mem_filter, Bool.not_eq_true'] at hdigest
  obtain ⟨howed, hlive⟩ := hdigest
  have hmem := h.loaded hloaded digest howed
  obtain ⟨d, hfound, -⟩ := findByDigest_of_mem hmem
  have hnot : d.isExpired now = false := by
    have hlive : (s.cache.data.findByDigest digest).any (·.isExpired now) = false := hlive
    rwa [hfound] at hlive
  rcases hexpired with hnone | hall
  · rw [cleanExpired_eq, if_pos hnone]
    exact hmem
  · rw [hall d (of_lookup_eq_some hfound).1] at hnot
    cases hnot

theorem digests_cleanExpired (now : Int) (data : DescriptorCacheData T) :
    ∀ digest ∈ (data.cleanExpired now).1.digests, digest ∈ data.digests := by
  intro digest hdigest
  rw [cleanExpired_eq] at hdigest
  split at hdigest
  · exact hdigest
  · cases hdigest

theorem Inv.maybeRebuildCache (hparse : ParsesBack T) (h : s.Inv cached journal)
    {now : Int} (hsurvives : Survives s (.maybeRebuildCache now fs)) :
    ∃ cached' journal', Inv ⟨s.cache.maybeRebuildCache now fs, s.forgive now⟩ cached' journal' := by
  obtain ⟨⟨hwrite, hcache, hjournal⟩, hexpired⟩ := hsurvives
  unfold DescriptorCache.maybeRebuildCache
  cases hloaded : s.cache.initiallyLoaded with
  | false =>
    have hsame : s.forgive now = s.owed := by
      simp [forgive, hloaded]
    rw [hsame]
    exact ⟨cached, journal, h⟩
  | true =>
    have hcleaned := h.cleaned hloaded hexpired
    have hforgiven : ∀ digest ∈ s.forgive now, digest ∈ s.owed := by
      intro digest hdigest
      simp only [forgive, hloaded, if_true] at hdigest
      exact (List.mem_filter.mp hdigest).1
    simp only [Bool.not_true, Bool.false_eq_true, if_false]
    split
    · -- not rebuilt: the files stay
      refine ⟨cached, journal, ⟨h.stored.cacheFile, h.stored.journalFile⟩, ?_, ?_, ?_⟩
      · intro digest hdigest
        exact h.memory digest (digests_cleanExpired now s.cache.data digest hdigest)
      · intro digest hdigest
        exact h.owed digest (hforgiven digest hdigest)
      · intro _ digest hdigest
        exact hcleaned digest hdigest
    · let cleaned : DescriptorCache T := { s.cache with
        data := (s.cache.data.cleanExpired now).1
        droppedBytes := javaInt (s.cache.droppedBytes + (s.cache.data.cleanExpired now).2) }
      have hstored : cleaned.Stored cached journal := ⟨h.stored.cacheFile, h.stored.journalFile⟩
      obtain ⟨cached', journal', hstored', -, hmem, hkept⟩ :=
        hstored.rebuildCache hparse hwrite hcache hjournal
      refine ⟨cached', journal', hstored', ?_, ?_, ?_⟩
      · intro digest hdigest
        exact (hmem digest).mp hdigest
      · intro digest hdigest
        exact Or.inl (hkept digest (hcleaned digest hdigest))
      · intro _ digest hdigest
        exact (hmem digest).mpr (Or.inl (hkept digest (hcleaned digest hdigest)))

/-- **One event.** -/
theorem inv_step (hparse : ParsesBack T) {event : CacheEvent T}
    (h : ∃ cached journal, s.Inv cached journal) (hsurvives : Survives s event)
    (hstep : s.step event = some s') : ∃ cached journal, s'.Inv cached journal := by
  obtain ⟨cached, journal, h⟩ := h
  cases event with
  | addDescriptors descriptors fs =>
    cases hstep
    obtain ⟨journal', hinv⟩ := h.addDescriptors hsurvives.1 hsurvives.2
    exact ⟨cached, journal', hinv⟩
  | setLastListed digest timestamp =>
    cases hstep
    refine ⟨cached, journal, ⟨h.stored.cacheFile, h.stored.journalFile⟩, ?_, h.owed, ?_⟩
    · rw [digests_setLastListed]
      exact h.memory
    · rw [digests_setLastListed]
      exact h.loaded
  | maybeRebuildCache now fs =>
    cases hstep
    exact h.maybeRebuildCache hparse hsurvives
  | restart =>
    cases hstep
    refine ⟨cached, journal, ⟨h.stored.cacheFile, h.stored.journalFile⟩, ?_, h.owed, ?_⟩
    · intro digest hdigest
      cases hdigest
    · intro hloaded
      cases hloaded
  | initialLoad fs =>
    cases hstep
    unfold DescriptorCache.initialLoad
    split
    · exact ⟨cached, journal, h⟩
    · obtain ⟨hstored, -, hmem⟩ := h.stored.reloadCache hparse hsurvives.1 hsurvives.2
      refine ⟨cached, journal, hstored, ?_, h.owed, ?_⟩
      · intro digest hdigest
        exact (hmem digest).mp hdigest
      · intro _ digest hdigest
        exact (hmem digest).mpr (h.owed digest hdigest)

/-- A fresh cache on two files. -/
def start (cacheFile journalFile : DirectoryStoreFile) : CacheHistory T :=
  ⟨{ cacheFile, journalFile }, []⟩

/-- **No live descriptor is lost**, in every history whose events all meet the condition. -/
theorem live_descriptors_found (hparse : DescriptorCache.ParsesBack T) (cached journal : List T)
    (cacheFile journalFile : DirectoryStoreFile)
    (hcache : cacheFile.Contains (DescriptorCache.documentTexts cached))
    (hjournal : journalFile.Contains (DescriptorCache.documentTexts journal))
    (events : List (CacheEvent T))
    (hevents : Runs.Meets step Survives (start cacheFile journalFile) events)
    (s : CacheHistory T) (hrun : Runs.run step (start cacheFile journalFile) events = some s) :
    s.AllFound := by
  have hstart : ∃ cached journal : List T,
      (start cacheFile journalFile : CacheHistory T).Inv cached journal := by
    refine ⟨cached, journal, ⟨hcache, hjournal⟩, ?_, ?_, ?_⟩
    · intro digest hdigest
      cases hdigest
    · intro digest hdigest
      cases hdigest
    · intro hloaded
      cases hloaded
  obtain ⟨cached', journal', hinv⟩ := Runs.invariant
    (fun _ _ _ h hsurvives hstep => inv_step hparse h hsurvives hstep) hstart hevents hrun
  exact hinv.allFound

end CacheHistory

namespace Sample

/-- Descriptors of one byte each. -/
structure ByteDescriptor where
  byte : UInt8

instance : StoredDescriptor ByteDescriptor where
  getDescriptorDigest d := digestOf d.byte
  getRawDocumentBytes d := [d.byte]
  parse bytes := some (bytes.map ByteDescriptor.mk)

theorem byteDescriptor_parsesBack : DescriptorCache.ParsesBack ByteDescriptor := by
  intro l _
  show some ((l.flatMap fun d => [d.byte]).map ByteDescriptor.mk) = some l
  rw [List.map_flatMap]
  simp

end Sample

namespace CacheHistory

/-- A history in which nothing fails and nothing expires. -/
def quiet : List (CacheEvent ByteDescriptor) :=
  [.initialLoad {}, .addDescriptors [⟨⟨1⟩, 0, .NOT_CACHED⟩, ⟨⟨2⟩, 0, .NOT_CACHED⟩] {},
    .setLastListed (digestOf 1) 1, .maybeRebuildCache 5 {}, .restart, .initialLoad {}]

theorem quiet_found :
    ∃ s : CacheHistory ByteDescriptor, Runs.run step (start {} {}) quiet = some s ∧
      s.cache.initiallyLoaded = true ∧ s.owed = [digestOf 1, digestOf 2] ∧ s.AllFound := by
  have hevents : Runs.Meets step Survives (start {} {}) quiet := by decide +kernel
  obtain ⟨s, hrun, hloaded, howed⟩ : ∃ s : CacheHistory ByteDescriptor,
      Runs.run step (start {} {}) quiet = some s ∧ s.cache.initiallyLoaded = true ∧
      s.owed = [digestOf 1, digestOf 2] := by decide +kernel
  exact ⟨s, hrun, hloaded, howed, live_descriptors_found byteDescriptor_parsesBack [] [] {} {}
    ⟨rfl, rfl⟩ ⟨rfl, rfl⟩ quiet hevents s hrun⟩

/-- The first of two descriptors was listed long ago. -/
def oneExpired : List (CacheEvent ByteDescriptor) :=
  [.initialLoad {}, .addDescriptors [⟨⟨1⟩, 0, .NOT_CACHED⟩, ⟨⟨2⟩, 0, .NOT_CACHED⟩] {},
    .setLastListed (digestOf 1) 1, .maybeRebuildCache 700000000 {}]

/-- A descriptor cannot be appended to the journal. -/
def oneUnwritten : List (CacheEvent ByteDescriptor) :=
  [.initialLoad {}, .addDescriptors [⟨⟨1⟩, 0, .NOT_CACHED⟩] { written := some 0 }, .restart,
    .initialLoad {}]

theorem not_allFound {s : CacheHistory T} (hloaded : s.cache.initiallyLoaded = true)
    (hdigest : digest ∈ s.owed)
    (hlost : (s.cache.getDescriptor digest).isNone = true) : ¬ s.AllFound := by
  intro hall
  obtain ⟨d, hfound, -⟩ := hall hloaded digest hdigest
  rw [hfound] at hlost
  cases hlost

/-- The cleaning of one descriptor loses the other, and a restart the one that was not written. -/
theorem live_descriptors_lost :
    (∃ s : CacheHistory ByteDescriptor, Runs.run step (start {} {}) oneExpired = some s ∧
        digestOf 2 ∈ s.owed ∧ ¬ s.AllFound) ∧
      ∃ s : CacheHistory ByteDescriptor, Runs.run step (start {} {}) oneUnwritten = some s ∧
        digestOf 1 ∈ s.owed ∧ ¬ s.AllFound := by
  obtain ⟨s, hrun, hloaded, howed, hlost⟩ : ∃ s : CacheHistory ByteDescriptor,
      Runs.run step (start {} {}) oneExpired = some s ∧ s.cache.initiallyLoaded = true ∧
      digestOf 2 ∈ s.owed ∧ (s.cache.getDescriptor (digestOf 2)).isNone = true := by decide +kernel
  obtain ⟨s', hrun', hloaded', howed', hlost'⟩ : ∃ s : CacheHistory ByteDescriptor,
      Runs.run step (start {} {}) oneUnwritten = some s ∧ s.cache.initiallyLoaded = true ∧
      digestOf 1 ∈ s.owed ∧ (s.cache.getDescriptor (digestOf 1)).isNone = true := by decide +kernel
  exact ⟨⟨s, hrun, howed, not_allFound hloaded howed hlost⟩,
    ⟨s', hrun', howed', not_allFound hloaded' howed' hlost'⟩⟩

end CacheHistory

/-! ## What cleaning removes -/

namespace DescriptorCacheData

/-- What `cleanExpired` is meant to do: the expired descriptors are removed and their bytes
counted, the others stay in order and are found. -/
structure Cleaned (now : Int) (data : DescriptorCacheData T)
    (result : DescriptorCacheData T × Int) : Prop where
  kept : result.1.allDescriptors = data.allDescriptors.filter fun d => !d.isExpired now
  found : ∀ d ∈ data.allDescriptors, result.1.findByDigest d.getDescriptorDigest =
    if d.isExpired now then none else some d
  dropped : result.2 = ((data.allDescriptors.filter (·.isExpired now)).map (·.getBodyLength)).sum

theorem findByDigest_of_nodup {data : DescriptorCacheData T} (hdistinct : data.digests.Nodup)
    (hd : d ∈ data.allDescriptors) :
    data.findByDigest d.getDescriptorDigest = some d := by
  obtain ⟨d', hd', hdigest⟩ := findByDigest_of_mem (List.mem_map_of_mem hd)
  have hmem := (of_lookup_eq_some hd').1
  rw [hd', List.inj_on_of_nodup_map hdistinct hmem hd hdigest]

/-- **Cleaning is right if nothing has expired**, and otherwise only if all has and is empty. -/
theorem cleanExpired_iff {now : Int} {data : DescriptorCacheData T}
    (hdistinct : data.digests.Nodup) :
    Cleaned now data (data.cleanExpired now) ↔
      (∀ d ∈ data.allDescriptors, d.isExpired now = false) ∨
        ∀ d ∈ data.allDescriptors, d.isExpired now = true ∧ d.getBodyLength = 0 := by
  rw [cleanExpired_eq]
  by_cases hnone : ∀ d ∈ data.allDescriptors, d.isExpired now = false
  · rw [if_pos hnone]
    refine ⟨fun _ => Or.inl hnone, fun _ => ⟨?_, ?_, ?_⟩⟩
    · exact (List.filter_eq_self.mpr fun d hd => by simp [hnone d hd]).symm
    · intro d hd
      rw [hnone d hd]
      exact findByDigest_of_nodup hdistinct hd
    · rw [List.filter_eq_nil_iff.mpr fun d hd => by simp [hnone d hd]]
      rfl
  · rw [if_neg hnone]
    constructor
    · intro h
      right
      have hexpired : ∀ d ∈ data.allDescriptors, d.isExpired now = true := by
        intro d hd
        have hnot := List.filter_eq_nil_iff.mp h.kept.symm d hd
        rwa [Bool.not_eq_true, Bool.not_eq_false'] at hnot
      have hsum : (data.allDescriptors.map (·.getRawDocumentBytes.length)).sum = 0 := by
        have hdropped := h.dropped
        rw [List.filter_eq_self.mpr hexpired] at hdropped
        rw [← Int.natCast_eq_zero, Nat.cast_list_sum, List.map_map]
        exact hdropped.symm
      intro d hd
      have hzero := List.sum_eq_zero_iff.mp hsum _ (List.mem_map_of_mem hd)
      exact ⟨hexpired d hd, Int.natCast_eq_zero.mpr hzero⟩
    · rintro (hlive | hall)
      · exact absurd hlive hnone
      · refine ⟨?_, ?_, ?_⟩
        · exact (List.filter_eq_nil_iff.mpr fun d hd => by simp [(hall d hd).1]).symm
        · intro d hd
          rw [if_pos (hall d hd).1]
          exact AList.lookup_empty _
        · rw [List.sum_eq_zero]
          intro n hn
          obtain ⟨d, hd, rfl⟩ := List.mem_map.mp hn
          exact (hall d (List.mem_of_mem_filter hd)).2

/-- Two descriptors, the first of which was listed at a given time. -/
def sampleData (lastListed : Int) : DescriptorCacheData ByteDescriptor :=
  ((clear.addDescriptor ⟨⟨1⟩, lastListed, .NOT_CACHED⟩).1.addDescriptor ⟨⟨2⟩, 0, .NOT_CACHED⟩).1

theorem sample_cleaned :
    Cleaned 700000000 (sampleData 500000000) ((sampleData 500000000).cleanExpired 700000000) :=
  (cleanExpired_iff (by decide +kernel)).mpr (by decide +kernel)

/-- The descriptor that has not expired is removed, and no bytes are counted. -/
theorem cleaning_removes_all :
    ((sampleData 1).cleanExpired 700000000).1.allDescriptors.length = 0 ∧
      ((sampleData 1).cleanExpired 700000000).2 = 0 ∧
      ¬ Cleaned 700000000 (sampleData 1) ((sampleData 1).cleanExpired 700000000) := by
  refine ⟨by decide +kernel, by decide +kernel, fun h => ?_⟩
  have hlength := congrArg List.length h.kept
  revert hlength
  decide +kernel

end DescriptorCacheData

end Orchid
