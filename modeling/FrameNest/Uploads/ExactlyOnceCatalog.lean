import FrameNest.Concurrent.System
import FrameNest.Uploads.Cataloging
import FrameNest.Uploads.StoreDiscipline

/-! Exactly-once cataloging: any number of callers, each with fresh identities of its own,
over one store. -/
namespace FrameNest.Uploads
open Relational Concurrent UploadStore

/-- One committed cataloging, with the rows it found. -/
structure CatalogEntry where
  uploadId : UploadSessionId
  row : UploadSessionRow
  publication : UploadPublicationRow
  media : LogicalMedia
  location : MediaLocation
  metadata : Option MediaMetadata
  nowMs : Int

namespace CatalogEntry

def session (e : CatalogEntry) : UploadSessionRow := catalogedRow e.row e.nowMs

def linked (e : CatalogEntry) : UploadPublicationRow :=
  linkedPublication e.publication e.media.id e.location.id e.nowMs

/-- The upload was published and unlinked, and its catalog rows say what its verified
publication says. -/
structure Ready (s : UploadStore) (e : CatalogEntry) : Prop where
  found : s.session? e.uploadId = some e.row
  published : e.row.state = .published
  stored : s.publication? e.uploadId = some e.publication
  verified : e.publication.state = .verified ∧ e.publication.cleanupState = .complete ∧
    e.publication.mediaId = none ∧ e.publication.mediaLocationId = none
  kind : e.media.kind = e.publication.validatedMediaKind.toMediaKind
  location : e.location.mediaId = e.media.id ∧
    e.location.libraryId = e.publication.destinationId ∧
    e.location.relativePath = e.publication.relativePath ∧
    e.location.observedSizeBytes = some e.publication.expectedSizeBytes
  metadata : ∀ m ∈ e.metadata, m.mediaId = e.media.id

end CatalogEntry

def entryFor (entries : List CatalogEntry) (id : UploadSessionId) : Option CatalogEntry :=
  entries.find? fun e => e.uploadId = id

/-- The store is the first one with these catalogings committed to it, each upload once. -/
structure CatalogedSince (s : UploadStore) (entries : List CatalogEntry) (t : UploadStore) :
    Prop where
  distinct : (entries.map CatalogEntry.uploadId).Nodup
  ready : ∀ e ∈ entries, e.Ready s
  media : t.media.rows = s.media.rows ++ entries.map CatalogEntry.media
  locations : t.locations.rows = s.locations.rows ++ entries.map CatalogEntry.location
  metadata : t.metadata.rows =
    s.metadata.rows ++ (entries.filterMap CatalogEntry.metadata).map metadataRow
  tags : t.tags = s.tags ++ (entries.filterMap CatalogEntry.metadata).flatMap canonicalTags
  sessions : ∀ id, t.session? id =
    ((entryFor entries id).map CatalogEntry.session).or (s.session? id)
  publications : ∀ id, t.publication? id =
    ((entryFor entries id).map CatalogEntry.linked).or (s.publication? id)
  identities : t.identities = s.identities

theorem CatalogedSince.refl (s : UploadStore) : CatalogedSince s [] s :=
  ⟨by simp, by simp, by simp, by simp, by simp, by simp, fun _ => rfl, fun _ => rfl, rfl⟩

theorem entryFor_append (entries : List CatalogEntry) (e : CatalogEntry) (id : UploadSessionId) :
    entryFor (entries ++ [e]) id =
      (entryFor entries id).or (if e.uploadId = id then some e else none) := by
  unfold entryFor
  rw [List.find?_append]
  by_cases h : e.uploadId = id <;> simp [h]

theorem entryFor_none {entries : List CatalogEntry} {id : UploadSessionId}
    (h : entryFor entries id = none) : id ∉ entries.map CatalogEntry.uploadId := by
  intro hmem
  obtain ⟨e, he, hid⟩ := List.mem_map.mp hmem
  have hfree := List.find?_eq_none.mp h e he
  simp [hid] at hfree

section Step
variable {s t u : UploadStore} {entries : List CatalogEntry} {id : UploadSessionId}
  {media : LogicalMedia} {location : MediaLocation} {metadata : Option MediaMetadata} {now : Int}
  {row : UploadSessionRow} {publication : UploadPublicationRow}

/-- A cataloged upload is not published, so it is not cataloged again. -/
theorem CatalogedSince.fresh (h : CatalogedSince s entries t) (hrow : t.session? id = some row)
    (hs : row.state = .published) : entryFor entries id = none := by
  cases hentry : entryFor entries id with
  | none => rfl
  | some e =>
    have hsession := h.sessions id
    rw [hentry, hrow] at hsession
    simp only [Option.map_some, Option.some_or, Option.some.injEq] at hsession
    rw [hsession] at hs
    cases hs

theorem metadataInserted_rows (h : MetadataInserted s t metadata) :
    t.metadata.rows = s.metadata.rows ++ (metadata.toList.map metadataRow) ∧
      t.tags = s.tags ++ metadata.toList.flatMap canonicalTags := by
  cases metadata with
  | none =>
    obtain ⟨hrows, htags⟩ := h
    rw [hrows, htags]
    exact ⟨by simp, by simp⟩
  | some m =>
    obtain ⟨hrows, htags⟩ := h
    refine ⟨?_, ?_⟩
    · rw [(Table.insert?_some hrows).2]
      rfl
    · rw [htags]
      simp

theorem CatalogedSince.cataloged (h : CatalogedSince s entries t)
    (hc : Cataloged t u id media location metadata now row publication)
    (hkind : media.kind = publication.validatedMediaKind.toMediaKind) :
    CatalogedSince s
      (entries ++ [⟨id, row, publication, media, location, metadata, now⟩]) u := by
  have hfresh := h.fresh hc.found hc.published
  have hfound : s.session? id = some row := by
    have hsession := h.sessions id
    rw [hfresh, hc.found] at hsession
    exact hsession.symm
  have hstored : s.publication? id = some publication := by
    have hpublication := h.publications id
    rw [hfresh, hc.stored] at hpublication
    exact hpublication.symm
  obtain ⟨hmetadata, htags⟩ := metadataInserted_rows hc.metadataInserted
  refine
    { distinct := ?_
      ready := ?_
      media := ?_
      locations := ?_
      metadata := ?_
      tags := ?_
      sessions := ?_
      publications := ?_
      identities := hc.frame.1.trans h.identities }
  · rw [List.map_append, List.nodup_append]
    refine ⟨h.distinct, by simp, ?_⟩
    intro a ha b hb hab
    simp only [List.map_cons, List.map_nil, List.mem_singleton] at hb
    rw [hab, hb] at ha
    exact entryFor_none hfresh ha
  · intro e he
    obtain he | he := List.mem_append.mp he
    · exact h.ready e he
    · rw [List.mem_singleton.mp he]
      exact ⟨hfound, hc.published, hstored, hc.verified, hkind, ⟨hc.owner.1, hc.path⟩, hc.owner.2⟩
  · rw [(Table.insert?_some hc.mediaInserted).2, h.media]
    simp
  · rw [(Table.insert?_some hc.locationInserted).2, h.locations]
    simp
  · rw [hmetadata, h.metadata]
    cases metadata <;> simp
  · rw [htags, h.tags]
    cases metadata <;> simp
  · intro k
    rw [hc.session? k, entryFor_append]
    by_cases hk : id = k
    · subst hk
      simp [hfresh, CatalogEntry.session]
    · simp [hk, h.sessions k]
  · intro k
    rw [hc.publication? k, entryFor_append]
    by_cases hk : id = k
    · subst hk
      simp [hfresh, CatalogEntry.linked]
    · simp [hk, h.publications k]

end Step

/-- What a caller has last seen of an upload: the candidate its repository answered with. -/
def noteCandidate : Option UploadPublicationCandidate → UploadWorld → (e : UploadEffect) →
    Except UploadError e.Answer → Option UploadPublicationCandidate
  | _, _, .repository (.getCandidate _), .ok candidate => candidate
  | _, _, .repository (.commitCatalogedPublication ..), .ok candidate => some candidate
  | g, _, _, _ => g

/-- A cataloger reads candidates, and commits a medium of the kind of the one it has seen. -/
def mayCatalog (g : Option UploadPublicationCandidate) : UploadEffect → Prop
  | .repository (.getCandidate _) => True
  | .repository (.commitCatalogedPublication id media ..) => ∃ candidate kind, g = some candidate ∧
      candidate.upload.id = id ∧ candidate.upload.validatedMediaKind = some kind ∧
      media.kind = kind.toMediaKind
  | .repository _ => False
  | _ => True

/-- Any number of `catalog_owned_blocking` calls at once, for any uploads. -/
def UploadServices.catalogSystem (S : UploadServices) :
    System UploadSessionId Moment UploadEffect UploadEffect.Answer UploadError UploadWorld
      (Option UploadPublicationCandidate) UploadCatalogResult where
  exec := S.exec
  note := noteCandidate
  permits _ _ _ _ := True
  may := mayCatalog
  program := S.catalogOwnedBlocking
  memory _ := none
  mayStart _ _ := true
  mayCrash := true

/-- What a caller has seen still holds: the kind of the upload, and its links once it is
cataloged. -/
def SeenCandidate (g : Option UploadPublicationCandidate) (w : UploadWorld) : Prop :=
  ∀ candidate ∈ g, ∃ row, w.store.session? candidate.upload.id = some row ∧
    row.validatedMediaKind = candidate.upload.validatedMediaKind ∧
    (isCataloged candidate = true → row.state = .cataloged ∧ ∃ stored,
      w.store.publication? candidate.upload.id = some stored ∧
      candidate.publication.map (fun publication => publication.mediaId) = some stored.mediaId)

/-- A report names what its caller has seen. -/
def ReportsSeen (g : Option UploadPublicationCandidate) :
    Except UploadError UploadCatalogResult → Prop
  | .ok result => ∀ m ∈ result.mediaId, ∃ candidate ∈ g, isCataloged candidate = true ∧
      candidate.upload.id = result.uploadId ∧
      candidate.publication.map (fun publication => publication.mediaId) = some (some m)
  | .error _ => True

theorem catalogResult_reports (candidate : UploadPublicationCandidate) :
    ReportsSeen (some candidate) (.ok (catalogResult candidate)) := by
  intro m hm
  refine ⟨candidate, rfl, ?_⟩
  cases hp : candidate.publication with
  | none => simp [catalogResult, hp] at hm
  | some publication =>
    by_cases hlinked : (publication.mediaId.isSome && publication.mediaLocationId.isSome &&
        decide (candidate.upload.state = .cataloged)) = true
    · have hmedia : publication.mediaId = some m := by
        simpa [catalogResult, hp, Option.filter, hlinked] using hm
      simp only [Bool.and_eq_true, decide_eq_true_eq] at hlinked
      refine ⟨?_, rfl, by simp [hmedia]⟩
      simp [isCataloged, isLinked, hp, hlinked.1.1, hlinked.1.2, hlinked.2]
    · simp [catalogResult, hp, Option.filter, hlinked] at hm

namespace UploadServices
variable {S : UploadServices} {id : UploadSessionId} {g : Option UploadPublicationCandidate}

theorem getCandidate_loaded {m : Moment} {w : UploadWorld} {candidate : UploadPublicationCandidate}
    (h : (S.exec m (.repository (.getCandidate id)) w).1 = .ok (some candidate)) :
    ∃ row, Loaded w.store id row candidate := by
  have hperform := mapError_eq_ok.mp (exec_repository_ok h)
  obtain ⟨found, hfound, hsame⟩ := map_eq_ok.mp hperform
  have hsome : found = some candidate := congrArg Prod.fst hsame
  rw [hsome] at hfound
  exact getCandidate_ok hfound

theorem commitCataloged_obeys {candidate : UploadPublicationCandidate}
    {publication : UploadPublication} {media : LogicalMedia} {location : MediaLocation} {now : Int}
    {metadata : Option MediaMetadata}
    (hmay : mayCatalog g (.repository (.commitCatalogedPublication id media location
      candidate.upload.version publication.version now metadata))) :
    Obeys S.catalogSystem.toProtocol ReportsSeen
      (commitCataloged id candidate publication media location now metadata) g := by
  refine Obeys.bind (Obeys.rescue (Obeys.perform hmay fun m w _ => ?_))
  cases (S.catalogSystem.exec m (.repository (.commitCatalogedPublication id media location
      candidate.upload.version publication.version now metadata)) w).1 with
  | ok committed => exact catalogResult_reports committed
  | error x =>
    simp only
    split
    · refine Obeys.perform_any (by trivial) (fun w found => ?_) fun _ _ => trivial
      cases hfound : Option.filter isCataloged found with
      | none => trivial
      | some current =>
        have hcurrent : found = some current := Option.eq_some_of_filter_eq_some hfound
        rw [hcurrent]
        exact catalogResult_reports current
    · trivial

theorem metadataFor_obeys {mediaId : MediaId} {now : Int} {β : Type}
    {Q : Option UploadPublicationCandidate → Except UploadError β → Prop}
    {f : Option MediaMetadata → UploadProgram β} (herror : ∀ x, Q g (.error x))
    (hf : ∀ metadata, Obeys S.catalogSystem.toProtocol Q (f metadata) g) :
    Obeys S.catalogSystem.toProtocol Q (S.metadataFor id mediaId now >>= f) g := by
  refine Obeys.bind (Obeys.perform_any (by trivial) (fun w classification => ?_)
    fun _ x => herror x)
  split
  · exact hf none
  · split
    · exact hf _
    · exact herror .other

theorem catalogPublished_obeys {candidate : UploadPublicationCandidate}
    {publication : UploadPublication} {kind : UploadValidatedMediaKind}
    (hid : candidate.upload.id = id) (hkind : candidate.upload.validatedMediaKind = some kind) :
    Obeys S.catalogSystem.toProtocol ReportsSeen
      (S.catalogPublished id candidate publication kind) (some candidate) := by
  refine Obeys.perform_any (by trivial) (fun _ now => ?_) fun _ _ => trivial
  refine Obeys.perform_any (by trivial) (fun _ mediaId => ?_) fun _ _ => trivial
  split
  · trivial
  · refine Obeys.perform_any (by trivial) (fun _ locationId => ?_) fun _ _ => trivial
    exact metadataFor_obeys (fun _ => trivial) fun metadata =>
      commitCataloged_obeys ⟨candidate, kind, rfl, hid, hkind, rfl⟩

theorem catalogCandidate_obeys :
    Obeys S.catalogSystem.toProtocol ReportsSeen (S.catalogCandidate id) none := by
  refine Obeys.perform_bind (by trivial) fun m w _ => ?_
  cases hr : (S.catalogSystem.exec m (.repository (.getCandidate id)) w).1 with
  | error x => trivial
  | ok found =>
    cases found with
    | none => trivial
    | some candidate =>
      obtain ⟨row, hrow⟩ := getCandidate_loaded (S := S) hr
      have hid := hrow.upload_id
      simp only
      split
      · trivial
      · refine obeys_demand (by trivial) fun _ => ?_
        split
        · exact catalogResult_reports candidate
        · refine obeys_demand (by trivial) fun _ => obeys_demand (by trivial) fun _ => ?_
          split
          · trivial
          · rename_i kind hkind
            exact catalogPublished_obeys hid hkind

theorem catalogOwnedBlocking_obeys :
    Obeys S.catalogSystem.toProtocol ReportsSeen (S.catalogOwnedBlocking id) none := by
  refine Obeys.rescue (catalogCandidate_obeys.mono fun g r h => ?_)
  cases r with
  | ok result => exact h
  | error x => trivial

end UploadServices

section Runs
variable {S : UploadServices} {g g' : Option UploadPublicationCandidate} {m : Moment}
  {e : UploadEffect} {w : UploadWorld} {s : UploadStore}

theorem loaded_seen {id : UploadSessionId} {row : UploadSessionRow}
    {candidate : UploadPublicationCandidate} (h : Loaded w.store id row candidate) :
    SeenCandidate (some candidate) w := by
  intro c hc
  cases hc
  have hid := h.upload_id
  refine ⟨row, by rw [hid]; exact h.found, by rw [h.upload], fun hcataloged => ?_⟩
  simp only [isCataloged, Bool.and_eq_true, decide_eq_true_eq] at hcataloged
  obtain ⟨hstate, hlinked⟩ := hcataloged
  cases hpublication : candidate.publication with
  | none => simp [hpublication] at hlinked
  | some publication =>
    refine ⟨?_, publication.toUploadPublicationRow, ?_, rfl⟩
    · rw [h.upload] at hstate
      exact hstate
    · rw [hid]
      exact h.publication? hpublication

/-- What a cataloger's call can do to the store: nothing, or one cataloging. -/
theorem catalog_step (hs : w.store.AllLoad) (hmay : mayCatalog g e) :
    (S.exec m e w).2.store = w.store ∨
    ∃ id media location metadata now row publication,
      Cataloged w.store (S.exec m e w).2.store id media location metadata now row publication ∧
      ∃ candidate kind, g = some candidate ∧ candidate.upload.id = id ∧
        candidate.upload.validatedMediaKind = some kind ∧ media.kind = kind.toMediaKind := by
  obtain hsame | ⟨op, a, t, rfl, hperform, hstore⟩ := exec_store_cases (S := S) (m := m) (w := w) e
  · exact Or.inl hsame
  · cases op with
    | getCandidate id =>
      left
      obtain ⟨_, -, hsame⟩ := map_eq_ok.mp (mapError_eq_ok.mp hperform)
      have ht : w.store = t := congrArg Prod.snd hsame
      rw [hstore, ht]
    | commitCatalogedPublication id media location uploadVersion publicationVersion now metadata =>
      obtain ⟨_, rfl, -⟩ | ⟨row, publication, -, hcataloged, -⟩ := commitCatalogedPublication_ok
        (fun row hrow => (hs id row hrow).login_key) (mapError_eq_ok.mp hperform)
      · exact Or.inl hstore
      · rw [← hstore] at hcataloged
        exact Or.inr ⟨id, media, location, metadata, now, row, publication, hcataloged, hmay⟩
    | _ => exact hmay.elim

theorem SeenCandidate.kept (h : SeenCandidate g' w) (hs : w.store.AllLoad)
    (hmay : mayCatalog g e) : SeenCandidate g' (S.exec m e w).2 := by
  obtain hsame | ⟨id, media, location, metadata, now, row, publication, hcataloged, -⟩ :=
    catalog_step (S := S) (m := m) hs hmay
  · intro candidate hc
    rw [hsame]
    exact h candidate hc
  · intro candidate hc
    obtain ⟨old, hold, hkind, hlinks⟩ := h candidate hc
    by_cases hid : id = candidate.upload.id
    · subst hid
      have hrow : old = row := by
        rw [hcataloged.found] at hold
        exact (Option.some.inj hold).symm
      refine ⟨catalogedRow row now, by rw [hcataloged.session?, if_pos rfl], ?_, fun hlinked => ?_⟩
      · rw [← hkind, hrow]
        rfl
      · have hstate := (hlinks hlinked).1
        rw [hrow, hcataloged.published] at hstate
        cases hstate
    · refine ⟨old, by rw [hcataloged.session?, if_neg hid]; exact hold, hkind, fun hlinked => ?_⟩
      obtain ⟨hstate, stored, hstored, hsame⟩ := hlinks hlinked
      exact ⟨hstate, stored, by rw [hcataloged.publication?, if_neg hid]; exact hstored, hsame⟩

theorem SeenCandidate.own (h : SeenCandidate g w) (hs : w.store.AllLoad) (hmay : mayCatalog g e) :
    SeenCandidate (noteCandidate g w e (S.exec m e w).1) (S.exec m e w).2 := by
  cases e with
  | repository op =>
    cases op with
    | getCandidate id =>
      cases hanswer : (S.exec m (.repository (.getCandidate id)) w).1 with
      | error x => exact h.kept hs hmay
      | ok candidate =>
        cases candidate with
        | none =>
          intro candidate hc
          cases hc
        | some candidate =>
          obtain ⟨row, hrow⟩ := UploadServices.getCandidate_loaded (S := S) hanswer
          exact (loaded_seen hrow).kept hs hmay
    | commitCatalogedPublication id media location uploadVersion publicationVersion now metadata =>
      cases hanswer : (S.exec m (.repository (.commitCatalogedPublication id media location
          uploadVersion publicationVersion now metadata)) w).1 with
      | error x => exact h.kept hs hmay
      | ok candidate =>
        obtain ⟨row, hsame, hrow, -⟩ | ⟨row, publication, -, -, hrow⟩ :=
          commitCatalogedPublication_ok (fun row hrow => (hs id row hrow).login_key)
            (mapError_eq_ok.mp (exec_repository_ok hanswer))
        · exact loaded_seen (by rw [hsame]; exact hrow)
        · exact loaded_seen hrow
    | _ => exact hmay.elim
  | _ => exact h.kept hs hmay

/-- The store loads, and is the first one with catalogings committed to it. -/
def CatalogRun (s : UploadStore) (w : UploadWorld) : Prop :=
  w.store.AllLoad ∧ ∃ entries, CatalogedSince s entries w.store

theorem CatalogRun.step (h : CatalogRun s w) (hseen : SeenCandidate g w) (hmay : mayCatalog g e) :
    CatalogRun s (S.exec m e w).2 := by
  obtain ⟨hs, entries, hentries⟩ := h
  obtain hsame | ⟨id, media, location, metadata, now, row, publication, hcataloged, candidate, kind,
      rfl, rfl, hkind, hmedia⟩ := catalog_step (S := S) (m := m) hs hmay
  · unfold CatalogRun
    rw [hsame]
    exact ⟨hs, entries, hentries⟩
  · refine ⟨?_, _, hentries.cataloged hcataloged ?_⟩
    · intro k loaded hloaded
      rw [hcataloged.session?] at hloaded
      split at hloaded
      · cases hloaded
        exact hcataloged.valid
      · exact hs k loaded hloaded
    · obtain ⟨seen, hseenRow, hseenKind, -⟩ := hseen candidate rfl
      have hrow : seen = row := by
        rw [hcataloged.found] at hseenRow
        exact (Option.some.inj hseenRow).symm
      obtain ⟨-, -, -, -, -, hvalidated, -⟩ :=
        UploadPublicationRow.matchesUpload_iff.mp hcataloged.evidence
      have hsame : kind = publication.validatedMediaKind := by
        rw [← hrow, hseenKind, hkind] at hvalidated
        exact Option.some.inj hvalidated
      rw [hmedia, hsame]

theorem catalogSystem_interference (s : UploadStore) :
    Interference S.catalogSystem (CatalogRun s) SeenCandidate fun _ _ => True where
  start id w hw candidate hc := by cases hc
  state g m e w hw hseen hmay _ := hw.step hseen hmay
  own g m e w hw hseen hmay _ := hseen.own hw.1 hmay
  other g g' m e w hw _ hseen' _ hmay _ := hseen'.kept hw.1 hmay
  symm _ _ _ := trivial
  newcomer _ _ _ _ _ := trivial
  apart _ _ _ _ _ _ _ _ _ _ _ := trivial

/-- The upload is cataloged as this medium. -/
def CatalogedAs (id : UploadSessionId) (mediaId : MediaId) (w : UploadWorld) : Prop :=
  ∃ row stored, w.store.session? id = some row ∧ row.state = .cataloged ∧
    w.store.publication? id = some stored ∧ stored.mediaId = some mediaId

theorem CatalogedAs.kept {id : UploadSessionId} {mediaId : MediaId} (h : CatalogedAs id mediaId w)
    (hs : w.store.AllLoad) (hmay : mayCatalog g e) : CatalogedAs id mediaId (S.exec m e w).2 := by
  obtain ⟨old, stored, hold, hstate, hstored, hmedia⟩ := h
  obtain hsame | ⟨k, media, location, metadata, now, row, publication, hcataloged, -⟩ :=
    catalog_step (S := S) (m := m) hs hmay
  · unfold CatalogedAs
    rw [hsame]
    exact ⟨old, stored, hold, hstate, hstored, hmedia⟩
  · have hne : k ≠ id := by
      intro hk
      have hfound := hcataloged.found
      rw [hk, hold] at hfound
      cases hfound
      rw [hcataloged.published] at hstate
      cases hstate
    exact ⟨old, stored, by rw [hcataloged.session?, if_neg hne, hold], hstate,
      by rw [hcataloged.publication?, if_neg hne, hstored], hmedia⟩

/-- What an ended call has reported is how the store has it. -/
theorem reported_cataloged {v : World UploadEffect UploadEffect.Answer UploadError UploadWorld
      (Option UploadPublicationCandidate) UploadCatalogResult}
    (hv : Sound S.catalogSystem ReportsSeen (CatalogRun s) SeenCandidate (fun _ _ => True) v)
    {t : Thread UploadEffect UploadEffect.Answer UploadError (Option UploadPublicationCandidate)
      UploadCatalogResult} (ht : t ∈ v.threads) {result : UploadCatalogResult}
    (hdone : t.program = .done result) {mediaId : MediaId} (hmedia : result.mediaId = some mediaId) :
    CatalogedAs result.uploadId mediaId v.state := by
  obtain ⟨hseen, hobeys⟩ := hv.threads t ht
  rw [hdone] at hobeys
  obtain ⟨candidate, hcandidate, hcataloged, hid, hlink⟩ := hobeys mediaId hmedia
  obtain ⟨row, hrow, -, hlinks⟩ := hseen candidate hcandidate
  obtain ⟨hstate, stored, hstored, hsame⟩ := hlinks hcataloged
  rw [hid] at hrow hstored
  rw [hlink] at hsame
  exact ⟨row, stored, hrow, hstate, hstored, (Option.some.inj hsame).symm⟩

end Runs

/-- Whatever operations made the store, and however any number of cataloging calls for any
uploads are started, interleaved and cut down by crashes: the store is the one the run
started from with whole catalogings committed to it, no upload twice and each as its verified
publication says, and two calls that report a medium of one upload report the same. -/
theorem exactly_once_cataloging (S : UploadServices) (libraries : List LibraryId)
    (canonicalTagKeys : List String) (ops : List Operation) (quarantine : Quarantine)
    (destination : Destination) (moves later : List (Move UploadSessionId Moment)) :
    let s := runOperations ops (UploadStore.empty libraries canonicalTagKeys)
    let v := moves.foldl (World.move S.catalogSystem) ⟨⟨s, quarantine, destination⟩, []⟩
    let v' := later.foldl (World.move S.catalogSystem) v
    (∃ entries, CatalogedSince s entries v.state.store) ∧
    (∀ t ∈ v.threads, ∀ result mediaId, t.program = .done result →
      result.mediaId = some mediaId → CatalogedAs result.uploadId mediaId v.state) ∧
    (∀ t ∈ v.threads, ∀ t' ∈ v'.threads, ∀ result result' mediaId mediaId',
      t.program = .done result → t'.program = .done result' →
      result.uploadId = result'.uploadId → result.mediaId = some mediaId →
      result'.mediaId = some mediaId' → mediaId = mediaId') := by
  intro s v v'
  have hs : CatalogRun s ⟨s, quarantine, destination⟩ :=
    ⟨runOperations_allLoad ops (empty_allLoad libraries canonicalTagKeys), [], CatalogedSince.refl s⟩
  have hobedient : Obedient S.catalogSystem ReportsSeen := fun _ =>
    UploadServices.catalogOwnedBlocking_obeys
  have hinterference := catalogSystem_interference (S := S) s
  have hallowed (script : List (Move UploadSessionId Moment)) (u) :
      World.Allowed S.catalogSystem script u :=
    World.allowed_of_forall (fun _ _ _ _ => trivial) script u
  have hreach : Reachable S.catalogSystem ⟨s, quarantine, destination⟩ v :=
    World.moves_reach moves _ (hallowed _ _)
  have hv := hreach.sound hinterference hobedient hs
  have hsteps := World.moves_reach later v (hallowed _ _)
  have hv' := hv.steps hinterference hobedient hsteps
  refine ⟨hv.state.2, ?_, ?_⟩
  · intro t ht result mediaId hdone hmedia
    exact reported_cataloged hv ht hdone hmedia
  · intro t ht t' ht' result result' mediaId mediaId' hdone hdone' hsame hmedia hmedia'
    have hbefore := reported_cataloged hv ht hdone hmedia
    have hafter : CatalogedAs result.uploadId mediaId v'.state :=
      hv.stable hinterference hobedient
        (fun g m e w hI _ hmay _ hkept => hkept.kept hI.1 hmay) hsteps hbefore
    rw [hsame] at hafter
    obtain ⟨row, stored, -, -, hstored, hlink⟩ := hafter
    obtain ⟨row', stored', -, -, hstored', hlink'⟩ := reported_cataloged hv' ht' hdone' hmedia'
    rw [hstored] at hstored'
    cases hstored'
    rw [hlink] at hlink'
    exact Option.some.inj hlink'

end FrameNest.Uploads
