import FrameNest.Sidecar.Codec
import FrameNest.Text.JsonChecked

/-! Every part of a sidecar is read back as it was written, and what is read is written again
with the same surrogates, short integers and a bounded length. -/
namespace FrameNest.Sidecar
open Metadata Relational PyStr PyJson

section Values

/-- A writer and a reader of one kind of value that belong together. The bound is on the bytes of
the text, the depth on its nesting. -/
structure Field {α : Type} (encode : α → PyJson) (parse : PyJson → Except SidecarFault α)
    (bound : α → Nat) (depth : Nat) : Prop where
  back : ∀ a, parse (encode a) = .ok a
  shaped : ∀ a room, PyJson.shaped false (encode a) (room + depth) = true
  light : ∀ a, writable (encode a) = true → weight (encode a) ≤ bound a
  surrogates : ∀ {v a}, orderly v = true → parse v = .ok a →
    PyJson.surrogates (encode a) = PyJson.surrogates v
  writable : ∀ {v a}, orderly v = true → parse v = .ok a → PyJson.writable (encode a) = true
  plain : ∀ {v a}, orderly v = true → parse v = .ok a → ∀ room,
    PyJson.shaped false v (room + depth) = true
  polite : ∀ {v x}, parse v = .error x → x = .malformed

theorem orMalformed_ok {α : Type} {o : Option α} {a : α} : orMalformed o = .ok a ↔ o = some a := by
  cases o with
  | none => simp [orMalformed]
  | some b => simp [orMalformed]

theorem orMalformed_error {α : Type} {o : Option α} {x : SidecarFault}
    (h : orMalformed o = .error x) : x = .malformed := by
  cases o with
  | none =>
    cases h
    rfl
  | some b => cases h

theorem require_malformed {b : Bool} {x : SidecarFault}
    (h : require b SidecarFault.malformed = .error x) : x = .malformed := by
  cases b with
  | false =>
    cases h
    rfl
  | true => cases h

theorem bind_polite {α β : Type} {x : Except SidecarFault α} {f : α → Except SidecarFault β}
    {e : SidecarFault} (h : x >>= f = .error e) (hx : ∀ e, x = .error e → e = .malformed)
    (hf : ∀ a e, f a = .error e → e = .malformed) : e = .malformed := by
  cases x with
  | error e' =>
    cases h
    exact hx e rfl
  | ok a => exact hf a e h

/-- A spelling in ASCII letters, read back through its inverse. -/
theorem field_text {α : Type} {spell : α → String} {read : String → Option α} (limit : Nat)
    (hback : ∀ a, read (spell a) = some a) (hlimit : ∀ a, (spell a).toList.length ≤ limit) :
    Field (fun a => text (spell a)) (parseText read) (fun _ => 6 * limit + 2) 0 where
  back a := by
    change orMalformed ((ofChars (spell a).toList).chars?.bind _) = _
    rw [chars?_ofChars, Option.bind_some, String.ofList_toList, hback]
    rfl
  shaped a room := shaped_text _ _
  light a _ := by
    have hlength := hlimit a
    change 6 * (ofString (spell a)).length + 2 ≤ _
    rw [ofString, ofChars, List.length_map]
    omega
  surrogates {v a} _ h := by
    cases v with
    | str s =>
      obtain ⟨l, hl, -⟩ := Option.bind_eq_some_iff.mp (orMalformed_ok.mp h)
      have hs := chars?_some hl
      subst hs
      have hnone : hasSurrogate (ofString (spell a)) = false := hasSurrogate_ofChars _
      change hasSurrogate (ofString (spell a)) = hasSurrogate (ofChars l)
      rw [hnone, hasSurrogate_ofChars]
    | _ => cases h
  writable _ _ := rfl
  plain {v a} _ h room := by
    cases v with
    | str s => rfl
    | _ => cases h
  polite {v x} h := by
    cases v with
    | str s => exact orMalformed_error h
    | _ =>
      cases h
      rfl

theorem field_form (t : TextForm) :
    Field (encodeForm (t := t)) (parseForm t) (fun _ => 6 * t.limit + 2) 0 where
  back v := by
    change orMalformed (t.make v.value) = _
    rw [t.make_value]
    rfl
  shaped v room := rfl
  light v _ := by
    have hwithin := t.within v.accepted
    rw [v.normal] at hwithin
    change 6 * v.value.length + 2 ≤ _
    omega
  surrogates {v a} _ h := by
    cases v with
    | str s =>
      obtain ⟨haccepts, hvalue⟩ := TextForm.make_some (orMalformed_ok.mp h)
      change hasSurrogate a.value = hasSurrogate s
      rw [hvalue, t.surrogate_form haccepts]
    | _ => cases h
  writable _ _ := rfl
  plain {v a} _ h room := by
    cases v with
    | str s => rfl
    | _ => cases h
  polite {v x} h := by
    cases v with
    | str s => exact orMalformed_error h
    | _ =>
      cases h
      rfl

theorem field_nat : Field encodeNat parseNat (fun _ => maxStrDigits + 1) 0 where
  back n := rfl
  shaped n room := rfl
  light n h := by
    have hshort : (Nat.toDigits 10 n).length ≤ maxStrDigits := by
      simpa [encodeNat, PyJson.writable, shortInt] using h
    change (Nat.toDigits 10 n).length + 1 ≤ _
    omega
  surrogates {v a} _ h := by
    cases v with
    | int n =>
      cases n with
      | ofNat n =>
        cases h
        rfl
      | negSucc n => cases h
    | _ => cases h
  writable {v a} horderly h := by
    cases v with
    | int n =>
      cases n with
      | ofNat n =>
        cases h
        exact horderly
      | negSucc n => cases h
    | _ => cases h
  plain {v a} _ h room := by
    cases v with
    | int n => rfl
    | _ => cases h
  polite {v x} h := by
    cases v with
    | int n =>
      cases n with
      | ofNat n => cases h
      | negSucc n =>
        cases h
        rfl
    | _ =>
      cases h
      rfl

variable {α : Type} {encode : α → PyJson} {parse : PyJson → Except SidecarFault α}
  {bound depth : Nat}

/-- `None` and a value that is never written as `null`. -/
theorem Field.optional {bound : α → Nat} (hf : Field encode parse bound depth)
    (hnull : parse .null = .error .malformed) :
    Field (encodeOptional encode) (parseOptional parse) (fun a => a.elim 4 bound) depth where
  back a := by
    cases a with
    | none => rfl
    | some a =>
      have hback := hf.back a
      change parseOptional parse (encode a) = .ok (some a)
      cases hv : encode a with
      | null =>
        rw [hv, hnull] at hback
        cases hback
      | _ =>
        change (parse _).map some = _
        rw [← hv, hback]
        rfl
  shaped a room := by
    cases a with
    | none => rfl
    | some a => exact hf.shaped a room
  light a h := by
    cases a with
    | none => exact Nat.le_refl 4
    | some a => exact hf.light a h
  surrogates {v a} horderly h := by
    cases v with
    | null =>
      cases h
      rfl
    | _ =>
      obtain ⟨b, hb, rfl⟩ := map_eq_ok.mp h
      exact hf.surrogates horderly hb
  writable {v a} horderly h := by
    cases v with
    | null =>
      cases h
      rfl
    | _ =>
      obtain ⟨b, hb, rfl⟩ := map_eq_ok.mp h
      exact hf.writable horderly hb
  plain {v a} horderly h room := by
    cases v with
    | null => rfl
    | _ =>
      obtain ⟨b, hb, rfl⟩ := map_eq_ok.mp h
      exact hf.plain horderly hb room
  polite {v x} h := by
    have hmap {w : PyJson} (hw : (parse w).map some = .error x) : x = .malformed := by
      cases hparse : parse w with
      | ok a =>
        rw [hparse] at hw
        cases hw
      | error e =>
        rw [hparse] at hw
        cases hw
        exact hf.polite hparse
    cases v with
    | null => cases h
    | _ => exact hmap h

/-- One bound on both. -/
theorem Field.optionalWithin (hf : Field encode parse (fun _ => bound) depth)
    (hnull : parse .null = .error .malformed) (hbound : 4 ≤ bound) :
    Field (encodeOptional encode) (parseOptional parse) (fun _ => bound) depth :=
  { hf.optional hnull with
    light := by
      intro a h
      have hlight := (hf.optional hnull).light a h
      cases a with
      | none => exact Nat.le_trans hlight hbound
      | some a => exact hlight }

theorem parseItems_back (hf : Field encode parse (fun _ => bound) depth) (l : List α) :
    parseItems parse (l.map encode) = .ok l := by
  induction l with
  | nil => rfl
  | cons a rest ih =>
    rw [List.map_cons, parseItems, hf.back, ih]
    rfl

theorem parseItems_ok {l : List α} {items : List PyJson} (h : parseItems parse items = .ok l) :
    List.Forall₂ (fun v a => parse v = .ok a) items l := by
  induction items generalizing l with
  | nil =>
    cases h
    exact .nil
  | cons v rest ih =>
    obtain ⟨a, ha, h⟩ := bind_eq_ok.mp h
    obtain ⟨tail, htail, h⟩ := bind_eq_ok.mp h
    cases h
    exact .cons ha (ih htail)

theorem parseItems_polite (hf : Field encode parse (fun _ => bound) depth) {items : List PyJson}
    {x : SidecarFault} (h : parseItems parse items = .error x) : x = .malformed := by
  induction items generalizing x with
  | nil => cases h
  | cons v rest ih =>
    refine bind_polite h (fun e he => hf.polite he) fun a e he => ?_
    exact bind_polite he (fun e he => ih he) fun l e he => by cases he

theorem Field.list (hf : Field encode parse (fun _ => bound) depth) :
    Field (encodeList encode) (parseList parse) (fun l => l.length * (bound + 1) + 2)
      (depth + 1) where
  back l := parseItems_back hf l
  shaped l room := by
    rw [← Nat.add_assoc]
    apply shaped_arr
    intro v hv
    obtain ⟨a, -, rfl⟩ := List.mem_map.mp hv
    exact hf.shaped a room
  light l h := by
    change itemsWeight (l.map encode) + 2 ≤ _
    have hitems : itemsWeight (l.map encode) ≤ (l.map encode).length * (bound + 1) := by
      apply itemsWeight_le
      intro v hv
      obtain ⟨a, ha, rfl⟩ := List.mem_map.mp hv
      exact hf.light a (allWritable_mem h (List.mem_map.mpr ⟨a, ha, rfl⟩))
    rw [List.length_map] at hitems
    omega
  surrogates {v l} horderly h := by
    cases v with
    | arr items =>
      have hall := parseItems_ok h
      have hitems := allOrderly_iff.mp horderly
      clear h horderly
      change itemsSurrogates (l.map encode) = itemsSurrogates items
      induction hall with
      | nil => rfl
      | cons ha hrest ih =>
        rw [List.map_cons, itemsSurrogates, itemsSurrogates,
          hf.surrogates (hitems _ (by simp)) ha,
          ih fun w hw => hitems w (List.mem_cons_of_mem _ hw)]
    | _ => cases h
  writable {v l} horderly h := by
    cases v with
    | arr items =>
      have hall := parseItems_ok h
      have hitems := allOrderly_iff.mp horderly
      clear h horderly
      change allWritable (l.map encode) = true
      induction hall with
      | nil => rfl
      | cons ha hrest ih =>
        rw [List.map_cons, allWritable, hf.writable (hitems _ (by simp)) ha,
          ih fun w hw => hitems w (List.mem_cons_of_mem _ hw)]
        rfl
    | _ => cases h
  plain {v l} horderly h room := by
    cases v with
    | arr items =>
      have hall := parseItems_ok h
      have hitems := allOrderly_iff.mp horderly
      rw [← Nat.add_assoc]
      apply shaped_arr
      clear h horderly
      induction hall with
      | nil => simp
      | cons ha hrest ih =>
        intro w hw
        rcases List.mem_cons.mp hw with rfl | hw
        · exact hf.plain (hitems _ (by simp)) ha room
        · exact ih (fun x hx => hitems x (List.mem_cons_of_mem _ hx)) w hw
    | _ => cases h
  polite {v x} h := by
    cases v with
    | arr items => exact parseItems_polite hf h
    | _ =>
      cases h
      rfl

end Values

section Objects
variable {members : List (String × PyJson)} {expected : List String} {v : PyJson}

theorem field_some {members : List (PyStr × PyJson)} (hnodup : (members.map Prod.fst).Nodup)
    {key : String} {w : PyJson} :
    field key (.obj members) = some w ↔ (ofString key, w) ∈ members := by
  change List.lookup (ofString key) members = some w ↔ _
  exact lookup_mem hnodup

theorem orderly_valueOf (h : orderly v = true) (key : String) : orderly (valueOf key v) = true := by
  unfold valueOf
  cases hfield : field key v with
  | none => rfl
  | some w =>
    cases v with
    | obj members =>
      rw [orderly, Bool.and_eq_true, decide_eq_true_eq] at h
      exact membersOrderly_iff.mp h.2 _ ((field_some h.1).mp hfield)
    | _ => cases hfield

/-- Nothing but its values can hold a surrogate in a closed object. -/
theorem surrogates_closed (h : orderly v = true) (hclosed : isClosed expected v = true) :
    surrogates v = expected.any fun key => surrogates (valueOf key v) := by
  cases v with
  | obj members =>
    rw [orderly, Bool.and_eq_true, decide_eq_true_eq] at h
    simp only [isClosed, Bool.and_eq_true, List.all_eq_true, List.any_eq_true,
      decide_eq_true_eq, List.contains_iff_mem] at hclosed
    obtain ⟨hknown, hthere⟩ := hclosed
    rw [surrogates, membersSurrogates_any, Bool.eq_iff_iff, List.any_eq_true, List.any_eq_true]
    constructor
    · rintro ⟨⟨k, w⟩, hmem, hw⟩
      obtain ⟨key, hkey, rfl⟩ := hknown k (List.mem_map.mpr ⟨_, hmem, rfl⟩)
      refine ⟨key, hkey, ?_⟩
      have hnone : hasSurrogate (ofString key) = false := hasSurrogate_ofChars _
      have hfield : field key (.obj members) = some w := (field_some h.1).mpr hmem
      rw [hnone, Bool.false_or] at hw
      rw [valueOf, hfield]
      exact hw
    · rintro ⟨key, hkey, hw⟩
      obtain ⟨⟨k, w⟩, hmem, hk⟩ := List.mem_map.mp (hthere key hkey)
      have hk : k = ofString key := hk
      subst hk
      have hfield : field key (.obj members) = some w := (field_some h.1).mpr hmem
      rw [valueOf, hfield] at hw
      exact ⟨_, hmem, by rw [Bool.or_eq_true]; exact .inr hw⟩
  | _ => cases hclosed

/-- What a closed object holds are its values, each under one key. -/
theorem shaped_closed {room : Nat} (h : orderly v = true) (hclosed : isClosed expected v = true)
    (hall : ∀ key ∈ expected, PyJson.shaped false (valueOf key v) room = true) :
    PyJson.shaped false v (room + 1) = true := by
  cases v with
  | obj members =>
    rw [orderly, Bool.and_eq_true, decide_eq_true_eq] at h
    simp only [isClosed, Bool.and_eq_true, List.all_eq_true, List.any_eq_true,
      decide_eq_true_eq] at hclosed
    have hmembers : membersShaped false members room = true := by
      apply membersShaped_iff.mpr
      rintro ⟨k, w⟩ hmem
      obtain ⟨key, hkey, rfl⟩ := hclosed.1 k (List.mem_map.mpr ⟨_, hmem, rfl⟩)
      have hfield : field key (.obj members) = some w := (field_some h.1).mpr hmem
      have hvalue := hall key hkey
      rw [valueOf, hfield] at hvalue
      exact ⟨rfl, hvalue⟩
    simp [PyJson.shaped, h.1, hmembers]
  | _ => cases hclosed

theorem surrogates_dict (members : List (String × PyJson)) :
    surrogates (dict members) = members.any fun m => surrogates m.2 := by
  change membersSurrogates ((inOrder members).map fun m => (ofString m.1, m.2)) = _
  rw [membersSurrogates_any, Bool.eq_iff_iff, List.any_eq_true, List.any_eq_true]
  constructor
  · rintro ⟨m, hm, hw⟩
    obtain ⟨k, w, hmem, rfl⟩ := mem_dict.mp hm
    have hnone : hasSurrogate (ofString k) = false := hasSurrogate_ofChars _
    rw [hnone, Bool.false_or] at hw
    exact ⟨_, hmem, hw⟩
  · rintro ⟨⟨k, w⟩, hmem, hw⟩
    exact ⟨_, mem_dict.mpr ⟨k, w, hmem, rfl⟩, by rw [Bool.or_eq_true]; exact .inr hw⟩

theorem writable_dict (members : List (String × PyJson)) :
    writable (dict members) = members.all fun m => writable m.2 := by
  change membersWritable ((inOrder members).map fun m => (ofString m.1, m.2)) = _
  rw [Bool.eq_iff_iff, membersWritable_iff, List.all_eq_true]
  constructor
  · intro h m hm
    exact h (ofString m.1, m.2) (mem_dict.mpr ⟨m.1, m.2, hm, rfl⟩)
  · intro h m hm
    obtain ⟨k, w, hmem, rfl⟩ := mem_dict.mp hm
    exact h _ hmem

theorem weight_dict (members : List (String × PyJson)) :
    weight (dict members) =
      (members.map fun m => 6 * m.1.toList.length + weight m.2 + 4).sum + 2 := by
  change membersWeight ((inOrder members).map fun m => (ofString m.1, m.2)) + 2 = _
  rw [membersWeight_sum, List.map_map]
  have hkeys : ((fun m : PyStr × PyJson => 6 * m.1.length + weight m.2 + 4) ∘
      fun m : String × PyJson => (ofString m.1, m.2)) =
      fun m => 6 * m.1.toList.length + weight m.2 + 4 := by
    funext m
    simp [ofString, ofChars]
  rw [hkeys, ((inOrder_perm members).map _).sum_nat]

theorem closed_dict (h : members.map Prod.fst = expected) :
    isClosed expected (dict members) = true := by
  subst h
  change isClosed _ (.obj ((inOrder members).map fun m => (ofString m.1, m.2))) = true
  simp only [isClosed, Bool.and_eq_true, List.all_eq_true, List.any_eq_true, decide_eq_true_eq,
    List.contains_iff_mem]
  constructor
  · intro k hk
    obtain ⟨m, hm, rfl⟩ := List.mem_map.mp hk
    obtain ⟨key, w, hmem, rfl⟩ := mem_dict.mp hm
    exact ⟨key, List.mem_map.mpr ⟨_, hmem, rfl⟩, rfl⟩
  · intro key hkey
    obtain ⟨m, hm, rfl⟩ := List.mem_map.mp hkey
    exact List.mem_map.mpr ⟨_, mem_dict.mpr ⟨m.1, m.2, hm, rfl⟩, rfl⟩

theorem valueOf_dict (hnodup : (members.map Prod.fst).Nodup) {key : String} {w : PyJson}
    (h : members.lookup key = some w) : valueOf key (dict members) = w := by
  rw [valueOf, field_dict hnodup, h]
  rfl

end Objects

section Parts

theorem field_identity (kind : IdentityKind) :
    Field (@encodeIdentity kind) (parseIdentity kind) (fun _ => 6 * 36 + 2) 0 := by
  apply field_text 36
  · intro id
    unfold readIdentity
    rw [dif_pos id.canonical]
  · intro id
    have hcanonical := id.canonical
    simp only [isUuid4Text, Plain.isUuidText, Bool.and_eq_true, decide_eq_true_eq] at hcanonical
    exact Nat.le_of_eq hcanonical.1.1.1

theorem field_tagKey : Field encodeTagKey parseTagKey (fun _ => 6 * 64 + 2) 0 := by
  apply field_text 64
  · intro key
    unfold readTagKey
    rw [dif_pos key.valid]
  · intro key
    have hvalid := key.valid
    simp only [isTagKey, Bool.and_eq_true, decide_eq_true_eq] at hvalid
    exact hvalid.1.1

theorem field_enum {α : Type} (e : Spelled α)
    (hshort : ∀ a ∈ e.all, (e.value a).toList.length ≤ 20) :
    Field (encodeEnum e) (parseEnum e) (fun _ => 6 * 20 + 2) 0 :=
  field_text 20 e.ofValue?_value fun a => hshort a (e.complete a)

theorem field_collectionKey :
    Field (fun key => text (collectionKeyText key)) (parseText readCollectionKey)
      (fun _ => 6 * 9 + 2) 0 :=
  field_text 9 (fun key => by cases key; rfl) fun key => by cases key; decide

variable {v : PyJson} {x : SidecarFault}

theorem parseTagDefinition_ok {item : SidecarTagDefinition} (h : parseTagDefinition v = .ok item) :
    isClosed tagDefinitionFields v = true ∧ parseTagKey (valueOf "key" v) = .ok item.key ∧
      parseForm canonicalTagDisplayName (valueOf "display_name" v) = .ok item.displayName := by
  obtain ⟨hclosed, h⟩ := require_bind_eq_ok.mp h
  obtain ⟨key, hkey, h⟩ := bind_eq_ok.mp h
  obtain ⟨displayName, hname, h⟩ := bind_eq_ok.mp h
  cases h
  exact ⟨hclosed, hkey, hname⟩

theorem field_tagDefinition :
    Field encodeTagDefinition parseTagDefinition (fun _ => 970) 1 where
  back item := by
    have hclosed : isClosed tagDefinitionFields (encodeTagDefinition item) = true :=
      closed_dict rfl
    have hkey : valueOf "key" (encodeTagDefinition item) = encodeTagKey item.key :=
      valueOf_dict (by simp) rfl
    have hname : valueOf "display_name" (encodeTagDefinition item) = encodeForm item.displayName :=
      valueOf_dict (by simp) rfl
    unfold parseTagDefinition
    rw [hclosed, hkey, hname, field_tagKey.back, (field_form _).back]
    rfl
  shaped item room := by
    refine shaped_dict (by simp) fun m hm => ?_
    simp only [List.mem_cons, List.not_mem_nil, or_false] at hm
    rcases hm with rfl | rfl
    · exact field_tagKey.shaped item.key room
    · exact (field_form _).shaped item.displayName room
  light item h := by
    have hkey := field_tagKey.light item.key rfl
    have hname := (field_form canonicalTagDisplayName).light item.displayName rfl
    have hlimit : canonicalTagDisplayName.limit = 80 := rfl
    have hlong : ("key".toList.length = 3) ∧ ("display_name".toList.length = 12) := by decide
    rw [encodeTagDefinition, weight_dict]
    simp only [List.map_cons, List.map_nil, List.sum_cons, List.sum_nil, hlong]
    omega
  surrogates {v item} horderly h := by
    obtain ⟨hclosed, hkey, hname⟩ := parseTagDefinition_ok h
    have hkeyS := field_tagKey.surrogates (orderly_valueOf horderly _) hkey
    have hnameS := (field_form _).surrogates (orderly_valueOf horderly _) hname
    rw [surrogates_closed horderly hclosed, encodeTagDefinition, surrogates_dict]
    simp only [tagDefinitionFields, List.any_cons, List.any_nil, hkeyS, hnameS]
  writable _ _ := by
    rw [encodeTagDefinition, writable_dict]
    rfl
  plain {v item} horderly h room := by
    obtain ⟨hclosed, hkey, hname⟩ := parseTagDefinition_ok h
    have hkeyP := field_tagKey.plain (orderly_valueOf horderly _) hkey room
    have hnameP := (field_form _).plain (orderly_valueOf horderly _) hname room
    apply shaped_closed horderly hclosed
    simp only [tagDefinitionFields, List.forall_mem_cons]
    exact ⟨hkeyP, hnameP, by simp⟩
  polite {v x} h := by
    refine bind_polite h (fun e he => require_malformed he) fun _ e he => ?_
    refine bind_polite he (fun e he => field_tagKey.polite he) fun _ e he => ?_
    exact bind_polite he (fun e he => (field_form _).polite he) fun _ e he => by cases he

theorem parseProcessedState_ok {state : SidecarProcessedState}
    (h : parseProcessedState v = .ok state) : isClosed processedFields v = true ∧
      parseText readCollectionKey (valueOf "collection_key" v) = .ok state.collectionKey ∧
      parseNat (valueOf "processed_at_ms" v) = .ok state.processedAtMs := by
  obtain ⟨hclosed, h⟩ := require_bind_eq_ok.mp h
  obtain ⟨key, hkey, h⟩ := bind_eq_ok.mp h
  obtain ⟨time, htime, h⟩ := bind_eq_ok.mp h
  cases h
  exact ⟨hclosed, hkey, htime⟩

theorem field_processed :
    Field encodeProcessed parseProcessedState (fun _ => 4600) 1 where
  back state := by
    have hclosed : isClosed processedFields (encodeProcessed state) = true := closed_dict rfl
    have hkey : valueOf "collection_key" (encodeProcessed state) =
        text (collectionKeyText state.collectionKey) := valueOf_dict (by simp) rfl
    have htime : valueOf "processed_at_ms" (encodeProcessed state) =
        encodeNat state.processedAtMs := valueOf_dict (by simp) rfl
    unfold parseProcessedState
    rw [hclosed, hkey, htime, field_collectionKey.back, field_nat.back]
    rfl
  shaped state room := by
    refine shaped_dict (by simp) fun m hm => ?_
    simp only [List.mem_cons, List.not_mem_nil, or_false] at hm
    rcases hm with rfl | rfl
    · exact field_collectionKey.shaped state.collectionKey room
    · exact field_nat.shaped state.processedAtMs room
  light state h := by
    rw [encodeProcessed, writable_dict] at h
    simp only [List.all_cons, List.all_nil, Bool.and_true, Bool.and_eq_true] at h
    have hkey := field_collectionKey.light state.collectionKey rfl
    have htime := field_nat.light state.processedAtMs h.2
    have hlong : ("collection_key".toList.length = 14) ∧ ("processed_at_ms".toList.length = 15) := by
      decide
    have hdigits : maxStrDigits = 4300 := rfl
    rw [encodeProcessed, weight_dict]
    simp only [List.map_cons, List.map_nil, List.sum_cons, List.sum_nil, hlong]
    omega
  surrogates {v state} horderly h := by
    obtain ⟨hclosed, hkey, htime⟩ := parseProcessedState_ok h
    have hkeyS := field_collectionKey.surrogates (orderly_valueOf horderly _) hkey
    have htimeS := field_nat.surrogates (orderly_valueOf horderly _) htime
    rw [surrogates_closed horderly hclosed, encodeProcessed, surrogates_dict]
    simp only [processedFields, List.any_cons, List.any_nil, hkeyS, htimeS]
  writable {v state} horderly h := by
    obtain ⟨hclosed, hkey, htime⟩ := parseProcessedState_ok h
    have htimeW := field_nat.writable (orderly_valueOf horderly _) htime
    rw [encodeProcessed, writable_dict]
    simp only [List.all_cons, List.all_nil, htimeW]
    rfl
  plain {v state} horderly h room := by
    obtain ⟨hclosed, hkey, htime⟩ := parseProcessedState_ok h
    have hkeyP := field_collectionKey.plain (orderly_valueOf horderly _) hkey room
    have htimeP := field_nat.plain (orderly_valueOf horderly _) htime room
    apply shaped_closed horderly hclosed
    simp only [processedFields, List.forall_mem_cons]
    exact ⟨hkeyP, htimeP, by simp⟩
  polite {v x} h := by
    refine bind_polite h (fun e he => require_malformed he) fun _ e he => ?_
    refine bind_polite he (fun e he => field_collectionKey.polite he) fun _ e he => ?_
    exact bind_polite he (fun e he => field_nat.polite he) fun _ e he => by cases he

theorem parseLocation_ok {location : SidecarLocation} (h : parseLocation v = .ok location) :
    isClosed locationFields v = true ∧
      parseForm mediaRelativePath (valueOf "relative_path" v) = .ok location.relativePath ∧
      parseIdentity .mediaLocation (valueOf "location_id" v) = .ok location.locationId ∧
      parseIdentity .library (valueOf "library_id" v) = .ok location.libraryId := by
  obtain ⟨hclosed, h⟩ := require_bind_eq_ok.mp h
  obtain ⟨path, hpath, h⟩ := bind_eq_ok.mp h
  obtain ⟨locationId, hlocation, h⟩ := bind_eq_ok.mp h
  obtain ⟨libraryId, hlibrary, h⟩ := bind_eq_ok.mp h
  cases h
  exact ⟨hclosed, hpath, hlocation, hlibrary⟩

theorem field_location : Field encodeLocation parseLocation (fun _ => 25400) 1 where
  back location := by
    have hclosed : isClosed locationFields (encodeLocation location) = true := closed_dict rfl
    have hpath : valueOf "relative_path" (encodeLocation location) =
        encodeForm location.relativePath := valueOf_dict (by simp) rfl
    have hlocation : valueOf "location_id" (encodeLocation location) =
        encodeIdentity location.locationId := valueOf_dict (by simp) rfl
    have hlibrary : valueOf "library_id" (encodeLocation location) =
        encodeIdentity location.libraryId := valueOf_dict (by simp) rfl
    unfold parseLocation
    rw [hclosed, hpath, hlocation, hlibrary, (field_form _).back, (field_identity _).back,
      (field_identity _).back]
    rfl
  shaped location room := by
    refine shaped_dict (by simp) fun m hm => ?_
    simp only [List.mem_cons, List.not_mem_nil, or_false] at hm
    rcases hm with rfl | rfl | rfl
    · exact (field_identity _).shaped location.locationId room
    · exact (field_identity _).shaped location.libraryId room
    · exact (field_form _).shaped location.relativePath room
  light location h := by
    have hlocation := (field_identity _).light location.locationId rfl
    have hlibrary := (field_identity _).light location.libraryId rfl
    have hpath := (field_form mediaRelativePath).light location.relativePath rfl
    have hlimit : mediaRelativePath.limit = 4096 := rfl
    have hlong : ("location_id".toList.length = 11) ∧ ("library_id".toList.length = 10) ∧
        ("relative_path".toList.length = 13) := by decide
    rw [encodeLocation, weight_dict]
    simp only [List.map_cons, List.map_nil, List.sum_cons, List.sum_nil, hlong]
    omega
  surrogates {v location} horderly h := by
    obtain ⟨hclosed, hpath, hlocation, hlibrary⟩ := parseLocation_ok h
    have hpathS := (field_form _).surrogates (orderly_valueOf horderly _) hpath
    have hlocationS := (field_identity _).surrogates (orderly_valueOf horderly _) hlocation
    have hlibraryS := (field_identity _).surrogates (orderly_valueOf horderly _) hlibrary
    rw [surrogates_closed horderly hclosed, encodeLocation, surrogates_dict]
    simp only [locationFields, List.any_cons, List.any_nil, hpathS, hlocationS, hlibraryS]
  writable _ _ := by
    rw [encodeLocation, writable_dict]
    rfl
  plain {v location} horderly h room := by
    obtain ⟨hclosed, hpath, hlocation, hlibrary⟩ := parseLocation_ok h
    have hpathP := (field_form _).plain (orderly_valueOf horderly _) hpath room
    have hlocationP := (field_identity _).plain (orderly_valueOf horderly _) hlocation room
    have hlibraryP := (field_identity _).plain (orderly_valueOf horderly _) hlibrary room
    apply shaped_closed horderly hclosed
    simp only [locationFields, List.forall_mem_cons]
    exact ⟨hlocationP, hlibraryP, hpathP, by simp⟩
  polite {v x} h := by
    refine bind_polite h (fun e he => require_malformed he) fun _ e he => ?_
    refine bind_polite he (fun e he => (field_form _).polite he) fun _ e he => ?_
    refine bind_polite he (fun e he => (field_identity _).polite he) fun _ e he => ?_
    exact bind_polite he (fun e he => (field_identity _).polite he) fun _ e he => by cases he

end Parts

section Root

theorem field_anyText : Field (fun s : PyStr => .str s) parseAnyText (fun s => 6 * s.length + 2) 0 where
  back s := rfl
  shaped s room := rfl
  light s _ := Nat.le_refl _
  surrogates {v s} _ h := by
    cases v with
    | str t =>
      cases h
      rfl
    | _ => cases h
  writable _ _ := rfl
  plain {v s} _ h room := by
    cases v with
    | str t => rfl
    | _ => cases h
  polite {v x} h := by
    cases v with
    | str t => cases h
    | _ =>
      cases h
      rfl

theorem field_optionalForm (t : TextForm) : Field (encodeOptional (encodeForm (t := t)))
    (parseOptional (parseForm t)) (fun _ => 6 * t.limit + 4) 0 := by
  have hf : Field (encodeForm (t := t)) (parseForm t) (fun _ => 6 * t.limit + 4) 0 :=
    { field_form t with
      light := fun a h => Nat.le_trans ((field_form t).light a h) (by omega) }
  exact hf.optionalWithin rfl (by omega)

theorem field_genres : Field (encodeList (encodeEnum movieGenres)) (parseList (parseEnum movieGenres))
    (fun l => l.length * (6 * 20 + 2 + 1) + 2) 1 := (field_enum movieGenres (by decide)).list

theorem field_creatorKind : Field (encodeOptional (encodeEnum creatorAttributionKinds))
    parseOptionalCreatorKind (fun _ => 6 * 20 + 2) 0 :=
  (field_enum creatorAttributionKinds (by decide)).optionalWithin rfl (by decide)

theorem field_creatorText : Field (encodeOptional .str) parseOptionalCreatorText
    (fun a => a.elim 4 fun s => 6 * s.length + 2) 0 := field_anyText.optional rfl

theorem field_processed? : Field (encodeOptional encodeProcessed) parseProcessed (fun _ => 4600) 1 :=
  field_processed.optionalWithin rfl (by decide)

theorem field_time : Field (encodeOptional encodeNat) optionalNonNegativeInt
    (fun _ => maxStrDigits + 1) 0 := field_nat.optionalWithin rfl (by decide)

/-- What the members of a root object were read as. -/
structure ReadAs (v : PyJson) (f : SidecarFields) : Prop where
  mediaId : parseIdentity .media (valueOf "media_id" v) = .ok f.mediaId
  mediaKind : parseEnum mediaKinds (valueOf "media_kind" v) = .ok f.mediaKind
  displayTitle : parseOptionalTitle (valueOf "display_title" v) = .ok f.displayTitle
  description : parseOptionalDescription (valueOf "description" v) = .ok f.description
  tagKeys : parseList parseTagKey (valueOf "tag_keys" v) = .ok f.tagKeys
  tagDefinitions : parseTagDefinitions (valueOf "tag_definitions" v) = .ok f.tagDefinitions
  contentCategory : parseEnum contentCategories (valueOf "content_category" v) =
    .ok f.contentCategory
  acquisitionSource : parseEnum acquisitionSources (valueOf "acquisition_source" v) =
    .ok f.acquisitionSource
  genreKeys : parseList (parseEnum movieGenres) (valueOf "genre_keys" v) = .ok f.genreKeys
  creatorKind : parseOptionalCreatorKind (valueOf "creator_attribution_kind" v) =
    .ok f.creator.creatorAttributionKind
  creatorStableId : parseOptionalCreatorText (valueOf "creator_stable_id" v) =
    .ok f.creator.creatorStableId
  creatorHandle : parseOptionalCreatorText (valueOf "creator_handle" v) = .ok f.creator.creatorHandle
  creatorDisplayName : parseOptionalCreatorText (valueOf "creator_display_name" v) =
    .ok f.creator.creatorDisplayName
  processed : parseProcessed (valueOf "processed" v) = .ok f.processed
  createdAtMs : optionalNonNegativeInt (valueOf "created_at_ms" v) = .ok f.createdAtMs
  updatedAtMs : optionalNonNegativeInt (valueOf "updated_at_ms" v) = .ok f.updatedAtMs
  location : parseLocation (valueOf "location" v) = .ok f.location
  few : fewTags f.tagKeys = true
  aligned : f.tagDefinitions.map SidecarTagDefinition.key = f.tagKeys
  fewGenres : Sidecar.fewGenres f.genreKeys f.contentCategory = true
  format : f.format = .framenest

variable {v : PyJson} {f : SidecarFields}

theorem parseFields_iff : parseFields v = .ok f ↔ ReadAs v f := by
  constructor
  · intro h
    obtain ⟨tagKeys, hkeys, h⟩ := bind_eq_ok.mp h
    obtain ⟨keys, hlist, hkeys⟩ := bind_eq_ok.mp hkeys
    obtain ⟨hfew, hkeys⟩ := require_bind_eq_ok.mp hkeys
    cases hkeys
    obtain ⟨tagDefinitions, hdefinitions, h⟩ := bind_eq_ok.mp h
    obtain ⟨haligned, h⟩ := require_bind_eq_ok.mp h
    obtain ⟨contentCategory, hcategory, h⟩ := bind_eq_ok.mp h
    obtain ⟨mediaId, hmedia, h⟩ := bind_eq_ok.mp h
    obtain ⟨mediaKind, hkind, h⟩ := bind_eq_ok.mp h
    obtain ⟨displayTitle, htitle, h⟩ := bind_eq_ok.mp h
    obtain ⟨description, hdescription, h⟩ := bind_eq_ok.mp h
    obtain ⟨acquisitionSource, hsource, h⟩ := bind_eq_ok.mp h
    obtain ⟨genreKeys, hgenres, h⟩ := bind_eq_ok.mp h
    obtain ⟨genres, hgenreList, hgenres⟩ := bind_eq_ok.mp hgenres
    obtain ⟨hfewGenres, hgenres⟩ := require_bind_eq_ok.mp hgenres
    cases hgenres
    obtain ⟨creatorKind, hcreatorKind, h⟩ := bind_eq_ok.mp h
    obtain ⟨stableId, hstableId, h⟩ := bind_eq_ok.mp h
    obtain ⟨handle, hhandle, h⟩ := bind_eq_ok.mp h
    obtain ⟨displayName, hdisplayName, h⟩ := bind_eq_ok.mp h
    obtain ⟨processed, hprocessed, h⟩ := bind_eq_ok.mp h
    obtain ⟨createdAtMs, hcreated, h⟩ := bind_eq_ok.mp h
    obtain ⟨updatedAtMs, hupdated, h⟩ := bind_eq_ok.mp h
    obtain ⟨location, hlocation, h⟩ := bind_eq_ok.mp h
    cases h
    exact ⟨hmedia, hkind, htitle, hdescription, hlist, hdefinitions, hcategory, hsource, hgenreList,
      hcreatorKind, hstableId, hhandle, hdisplayName, hprocessed, hcreated, hupdated, hlocation,
      hfew, of_decide_eq_true haligned, hfewGenres, rfl⟩
  · intro h
    have hkeys : parseTagKeys (valueOf "tag_keys" v) = .ok f.tagKeys := by
      rw [parseTagKeys, h.tagKeys]
      change (require (fewTags f.tagKeys) SidecarFault.malformed >>= fun _ => .ok f.tagKeys) = _
      rw [h.few]
      rfl
    have hgenres : parseGenres f.contentCategory (valueOf "genre_keys" v) = .ok f.genreKeys := by
      rw [parseGenres, h.genreKeys]
      change (require (Sidecar.fewGenres f.genreKeys f.contentCategory) SidecarFault.malformed >>=
        fun _ => .ok f.genreKeys) = _
      rw [h.fewGenres]
      rfl
    have hself : f = { f with format := .framenest } := by
      rw [← h.format]
    refine bind_eq_ok.mpr ⟨_, hkeys, ?_⟩
    refine bind_eq_ok.mpr ⟨_, h.tagDefinitions, ?_⟩
    refine require_bind_eq_ok.mpr ⟨decide_eq_true h.aligned, ?_⟩
    refine bind_eq_ok.mpr ⟨_, h.contentCategory, ?_⟩
    refine bind_eq_ok.mpr ⟨_, h.mediaId, ?_⟩
    refine bind_eq_ok.mpr ⟨_, h.mediaKind, ?_⟩
    refine bind_eq_ok.mpr ⟨_, h.displayTitle, ?_⟩
    refine bind_eq_ok.mpr ⟨_, h.description, ?_⟩
    refine bind_eq_ok.mpr ⟨_, h.acquisitionSource, ?_⟩
    refine bind_eq_ok.mpr ⟨_, hgenres, ?_⟩
    refine bind_eq_ok.mpr ⟨_, h.creatorKind, ?_⟩
    refine bind_eq_ok.mpr ⟨_, h.creatorStableId, ?_⟩
    refine bind_eq_ok.mpr ⟨_, h.creatorHandle, ?_⟩
    refine bind_eq_ok.mpr ⟨_, h.creatorDisplayName, ?_⟩
    refine bind_eq_ok.mpr ⟨_, h.processed, ?_⟩
    refine bind_eq_ok.mpr ⟨_, h.createdAtMs, ?_⟩
    refine bind_eq_ok.mpr ⟨_, h.updatedAtMs, ?_⟩
    refine bind_eq_ok.mpr ⟨_, h.location, ?_⟩
    exact congrArg Except.ok hself.symm

theorem sidecarMembers_keys (f : SidecarFields) : (sidecarMembers f).map Prod.fst = rootFields := rfl

theorem sidecarMembers_nodup (f : SidecarFields) : ((sidecarMembers f).map Prod.fst).Nodup := by
  rw [sidecarMembers_keys]
  decide

theorem valueOf_payload {key : String} {w : PyJson} (h : (sidecarMembers f).lookup key = some w) :
    valueOf key (sidecarPayload f) = w := valueOf_dict (sidecarMembers_nodup f) h

/-- A parser reads its field from the payload. -/
theorem Field.read {α : Type} {encode : α → PyJson} {parse : PyJson → Except SidecarFault α}
    {bound : α → Nat} {depth : Nat} (hf : Field encode parse bound depth) {a : α} {key : String}
    (h : (sidecarMembers f).lookup key = some (encode a)) :
    parse (valueOf key (sidecarPayload f)) = .ok a := by
  rw [valueOf_payload h, hf.back]

/-- The payload is read as the fields it was written from, in the writer's format. -/
theorem payload_readAs (h : f.valid = true) :
    ReadAs (sidecarPayload f) { f with format := .framenest } := by
  simp only [SidecarFields.valid, Bool.and_eq_true, decide_eq_true_eq] at h
  obtain ⟨⟨⟨hfew, haligned⟩, hgenres⟩, -⟩ := h
  exact {
    mediaId := (field_identity _).read rfl
    mediaKind := (field_enum mediaKinds (by decide)).read rfl
    displayTitle := (field_optionalForm _).read rfl
    description := (field_optionalForm _).read rfl
    tagKeys := field_tagKey.list.read rfl
    tagDefinitions := field_tagDefinition.list.read rfl
    contentCategory := (field_enum contentCategories (by decide)).read rfl
    acquisitionSource := (field_enum acquisitionSources (by decide)).read rfl
    genreKeys := field_genres.read rfl
    creatorKind := field_creatorKind.read rfl
    creatorStableId := field_creatorText.read rfl
    creatorHandle := field_creatorText.read rfl
    creatorDisplayName := field_creatorText.read rfl
    processed := field_processed?.read rfl
    createdAtMs := field_time.read rfl
    updatedAtMs := field_time.read rfl
    location := field_location.read rfl
    few := hfew
    aligned := haligned
    fewGenres := hgenres
    format := rfl }

/-- A root object that is a sidecar, and its fields before the constructor. -/
structure Accepted (v : PyJson) (f : SidecarFields) : Prop where
  object : v.asObj.isSome = true
  format : hasForeignFormat v = false
  version : hasForeignVersion v = false
  closed : isClosed rootFields v = true
  formatText : requireFormat (valueOf "format" v) = .ok ()
  versionNumber : requireVersion (valueOf "schema_version" v) = .ok ()
  read : ReadAs v f

theorem decodeTree_ok {u : Unicode} {d : SidecarDocument u} :
    decodeTree u v = .ok d ↔ ∃ f, Accepted v f ∧ SidecarDocument.make u f = some d := by
  constructor
  · intro h
    obtain ⟨hobject, h⟩ := require_bind_eq_ok.mp h
    obtain ⟨hforeign, h⟩ := require_bind_eq_ok.mp h
    obtain ⟨hclosed, h⟩ := require_bind_eq_ok.mp h
    obtain ⟨⟨⟩, hformat, h⟩ := bind_eq_ok.mp h
    obtain ⟨⟨⟩, hversion, h⟩ := bind_eq_ok.mp h
    obtain ⟨f, hfields, h⟩ := bind_eq_ok.mp h
    simp only [Bool.and_eq_true, Bool.not_eq_true'] at hforeign
    exact ⟨f, ⟨hobject, hforeign.1, hforeign.2, hclosed, hformat, hversion,
      parseFields_iff.mp hfields⟩, orMalformed_ok.mp h⟩
  · rintro ⟨f, h, hmake⟩
    refine require_bind_eq_ok.mpr ⟨h.object, ?_⟩
    refine require_bind_eq_ok.mpr ⟨by simp [h.format, h.version], ?_⟩
    refine require_bind_eq_ok.mpr ⟨h.closed, ?_⟩
    refine bind_eq_ok.mpr ⟨(), h.formatText, ?_⟩
    refine bind_eq_ok.mpr ⟨(), h.versionNumber, ?_⟩
    exact bind_eq_ok.mpr ⟨f, parseFields_iff.mpr h.read, orMalformed_ok.mpr hmake⟩

theorem payload_accepted (h : f.valid = true) :
    Accepted (sidecarPayload f) { f with format := .framenest } where
  object := rfl
  format := by
    have hfield : field "format" (sidecarPayload f) = some (text SidecarFormat.framenest.value) :=
      field_dict (sidecarMembers_nodup f) "format"
    rw [hasForeignFormat, hfield]
    decide
  version := by
    have hfield : field "schema_version" (sidecarPayload f) = some (.int sidecarSchemaVersion) :=
      field_dict (sidecarMembers_nodup f) "schema_version"
    rw [hasForeignVersion, hfield]
    rfl
  closed := closed_dict (sidecarMembers_keys f)
  formatText := by
    have hvalue : valueOf "format" (sidecarPayload f) = text SidecarFormat.framenest.value :=
      valueOf_payload rfl
    rw [hvalue]
    decide
  versionNumber := by
    have hvalue : valueOf "schema_version" (sidecarPayload f) = .int sidecarSchemaVersion :=
      valueOf_payload rfl
    rw [hvalue]
    rfl
  read := payload_readAs h

end Root
end FrameNest.Sidecar
