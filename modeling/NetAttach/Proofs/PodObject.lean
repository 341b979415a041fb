-- SUMMARY: What a pod object keeps when its version and its annotations are replaced, and where it is asked for.
import NetAttach.Cluster.Store
import NetAttach.Keyed
import NetAttach.Proofs.JsonReader
import NetAttach.Proofs.Known

/-!
# Writing a pod object

To write a pod its object is read and put back with another version and other annotations.
All other members of the object and of its metadata are put as the client library writes
them again, whether they mean anything to the store or not, and the object is a pod still.
It is put where it was read.
-/

namespace NetAttach

/-! ## Numbers as texts -/

theorem Text.readNat?_toString {bound n : Nat} (fits : n ≤ bound) :
    readNat? bound (toString n).toList = some n := by
  have value := Json.decimalValue_toDigits n
  have all : ∀ c ∈ Nat.toDigits 10 n, c.isDigit :=
    fun c mem => Nat.isDigit_of_mem_toDigits (by decide) (by decide) mem
  rw [Nat.toString_eq_repr, Nat.toList_repr]
  exact readNat?_eq_some_iff.2
    ⟨_, .inl rfl, ⟨Nat.toDigits_ne_nil, List.all_eq_true.2 all, Nat.le_trans (Nat.le_of_eq value) fits⟩, value⟩

theorem Text.eq_of_toString {m n : Nat} (h : toString m = toString n) : m = n := by
  have reads := readNat?_toString (Nat.le_max_left m n)
  rw [h, readNat?_toString (Nat.le_max_right m n)] at reads
  exact (Option.some.inj reads).symm

namespace Cluster

/-! ## Targets -/

theorem isPathChar_eq : isPathChar = fun c =>
    0x20 < c.toNat && c.toNat ≠ 0x7F && !("#<>?`".toList.contains c) := by
  funext c
  rw [isPathChar, String.contains_char_eq, List.contains_eq_mem]

theorem isQueryChar_eq : isQueryChar = fun c =>
    0x20 < c.toNat && c.toNat ≠ 0x7F && !("\x22#<>".toList.contains c) := by
  funext c
  rw [isQueryChar, String.contains_char_eq, List.contains_eq_mem]

/-- A document is put to the path from which its object is read. -/
theorem arrivingPath?_of_query {target path : String} (h : arrivingPath? (target ++ "?") = some path) :
    arrivingPath? target = some path := by
  have ends : isPathChar '?' = false := by rw [isPathChar_eq]; rfl
  have front : (target.toList ++ ['?']).takeWhile isPathChar = target.toList.takeWhile isPathChar := by
    rw [List.takeWhile_append]
    split
    · next all => simp [(List.takeWhile_prefix isPathChar).eq_of_length all, ends]
    · rfl
  have back : (target.toList ++ ['?']).dropWhile isPathChar
      = target.toList.dropWhile isPathChar ++ ['?'] := by
    rw [List.dropWhile_append]
    split
    · next all => simp [List.isEmpty_iff.1 all, ends]
    · rfl
  unfold arrivingPath? at h ⊢
  dsimp only at h ⊢
  rw [String.toList_append, String.utf8ByteSize_append, show "?".toList = ['?'] from rfl, front, back,
    Option.ite_none_right_eq_some] at h
  obtain ⟨⟨size, fine⟩, same⟩ := h
  rw [← same]
  refine if_pos ⟨Nat.le_trans (Nat.le_add_right ..) size, ?_⟩
  split
  · rfl
  · rfl
  · next query ending =>
    rw [ending] at fine
    have fine : ["", "#"].contains
        (String.ofList (((query ++ ['?']).dropWhile isQueryChar).take 1)) = true := fine
    rw [List.dropWhile_append] at fine
    cases rest : query.dropWhile isQueryChar with
    | nil => rfl
    | cons d others =>
      rw [rest] at fine
      exact fine
  · next c query fragment asks ending =>
    rw [ending, List.cons_append] at fine
    split at fine
    · next same => cases same
    · next same => exact absurd (List.cons.inj same).1 fragment
    · next same => exact absurd (List.cons.inj same).1 asks
    · cases fine

/-! ## Members of documents -/

theorem get?_setMember (j : Json) (name k : String) (v : Json) :
    (setMember j name v).get? k = if k = name then some v else j.get? k := by
  cases j with
  | obj ms =>
    have put := Keyed.get?_put ⟨ms.reverse⟩ name k v
    unfold setMember Json.get?
    simp only [List.reverse_append, ← List.filter_reverse]
    exact put
  | _ =>
    unfold setMember Json.get?
    have put := Keyed.get?_put (.empty : Keyed String Json) name k v
    exact put

theorem mem_of_get? {ms : List (String × Json)} {k : String} {v : Json} (h : (Json.obj ms).get? k = some v) :
    (k, v) ∈ ms := by
  obtain ⟨after, before, split, -⟩ := List.lookup_eq_some_iff.1 (show ms.reverse.lookup k = _ from h)
  exact List.mem_reverse.1 (split ▸ by simp)

/-- The metadata of an object. -/
def metadataOf (document : Json) : Json := (document.present? "metadata").getD (.obj [])

theorem get?_metadataOf (document : Json) (k : String) :
    (metadataOf document).get? k = ((document.get? "metadata").getD .null).get? k := by
  unfold metadataOf Json.present?
  split
  · next absent => rw [absent]; rfl
  · cases document.get? "metadata" <;> rfl

/-- The version that a document names. -/
def versionOf (document : Json) : Option String := (metadataOf document).textAt? "resourceVersion"

/-- The containers of an object, as they are. -/
def containersOf (document : Json) : List Container :=
  (((document.present? "status").getD (.obj [])).itemsAt "containerStatuses").map containerOf

/-- Two documents agree on all members, and on those of their metadata but for some. -/
structure SameBut (others : List String) (document document' : Json) : Prop where
  members : ∀ k, k ≠ "metadata" → document'.get? k = document.get? k
  metadata : ∀ k, k ∉ others → (metadataOf document').get? k = (metadataOf document).get? k

theorem SameBut.trans {others fewer : List String} {d d' d'' : Json} (h : SameBut others d d')
    (h' : SameBut fewer d' d'') (sub : fewer ⊆ others) : SameBut others d d'' where
  members k ne := (h'.members k ne).trans (h.members k ne)
  metadata k aside := (h'.metadata k fun mem => aside (sub mem)).trans (h.metadata k aside)

/-! ### Texts of documents -/

theorem printable_null : Json.null.Printable := by
  simp [Json.Printable, Json.Leaves, Json.InRange, Json.Exact]

theorem printable_member_of_obj {ms : List (String × Json)} (h : (Json.obj ms).Printable)
    {m : String × Json} (mem : m ∈ ms) : m.2.Printable :=
  Json.leavesOfMembers_iff.1 h m mem

theorem printable_get? {j : Json} (h : j.Printable) (k : String) : ((j.get? k).getD .null).Printable := by
  cases j with
  | obj ms =>
    cases given : (Json.obj ms).get? k with
    | none => exact printable_null
    | some v =>
      exact printable_member_of_obj h (mem_of_get? given)
  | _ => exact printable_null

theorem printable_setMember {j v : Json} (h : j.Printable) (hv : v.Printable) (name : String) :
    (setMember j name v).Printable := by
  cases j with
  | obj ms =>
    refine Json.leavesOfMembers_iff.2 fun m mem => ?_
    obtain kept | set := List.mem_append.1 mem
    · exact printable_member_of_obj h (List.mem_filter.1 kept).1
    · obtain rfl := List.mem_singleton.1 set
      exact hv
  | _ => exact ⟨hv, trivial⟩

/-! ## Replaced objects -/

namespace PodObject

variable {o : PodObject} {pod : Pod} {document : Json} {rewrite : Json → Json}

/-- Annotations as a document. -/
def annotationsJson (annotations : Dict String) : Json :=
  .obj (annotations.entries.map fun e => (e.1, .str e.2))

theorem get?_replaced (rewrite : Json → Json) (o : PodObject) (pod : Pod) (k : String) :
    (metadataOf (o.replaced rewrite pod)).get? k =
      if k = "annotations" then some (annotationsJson pod.annotations)
      else if k = "resourceVersion" then some (.str (toString pod.version))
      else (metadataOf (rewrite o.document)).get? k := by
  rw [get?_metadataOf, get?_metadataOf, replaced, get?_setMember, if_pos rfl, Option.getD_some,
    get?_setMember, get?_setMember]
  rfl

/-- An object is put back as it is written again, but for its version and its annotations. -/
theorem sameBut_replaced (rewrite : Json → Json) (o : PodObject) (pod : Pod) :
    SameBut ["resourceVersion", "annotations"] (rewrite o.document) (o.replaced rewrite pod) where
  members k ne := by rw [replaced, get?_setMember, if_neg ne]
  metadata k aside := by
    simp only [List.mem_cons, List.not_mem_nil, or_false, not_or] at aside
    rw [get?_replaced, if_neg aside.2, if_neg aside.1]

theorem versionOf_replaced (rewrite : Json → Json) (o : PodObject) (pod : Pod) :
    versionOf (o.replaced rewrite pod) = some (toString pod.version) := by
  rw [versionOf, Json.textAt?, get?_replaced]
  rfl

/-! ## Objects that were read -/

/-- What an object is read as, member by member. -/
theorem read_eq_some : read document = some o ↔ Shape.pod.describes document ∧ o = {
    space := (metadataOf document).textAt? "namespace"
    name := (metadataOf document).textAt? "name"
    generateName := (metadataOf document).textAt? "generateName"
    uid := (metadataOf document).textAt? "uid"
    version := versionOf document
    annotations := (metadataOf document).present? "annotations" >>= Json.decode (Json.dictOf Json.text)
    containers := containersOf document
    document } := by
  unfold read
  rw [Option.ite_none_right_eq_some, Option.some_inj, eq_comm (b := o)]
  rfl

/-- Objects whose documents agree differ in their versions and annotations only. -/
theorem eq_of_sameBut {o o' : PodObject} {d d' : Json} (h : read d = some o) (h' : read d' = some o')
    (same : SameBut ["resourceVersion", "annotations"] d d') :
    o'.key = o.key ∧ o'.uid = o.uid ∧ o'.containers = o.containers := by
  have metadata (k : String) (aside : k ∉ ["resourceVersion", "annotations"]) :
      (metadataOf d').textAt? k = (metadataOf d).textAt? k := by
    rw [Json.textAt?, Json.textAt?, same.metadata k aside]
  have status : d'.present? "status" = d.present? "status" := by
    rw [Json.present?, Json.present?, same.members "status" (by decide)]
  rw [(read_eq_some.1 h).2, (read_eq_some.1 h').2]
  refine ⟨?_, metadata _ (by decide), by simp only [containersOf, status]⟩
  simp only [key, anyName, metadata "namespace" (by decide), metadata "name" (by decide),
    metadata "generateName" (by decide)]

theorem annotations_of_read (h : read document = some o) {annotations : Dict String}
    (holds : (metadataOf document).get? "annotations" = some (annotationsJson annotations)) :
    o.annotations = some annotations := by
  have reads : Json.Rereads (Json.dictOf Json.text) _ Json.maxDepth annotations :=
    Json.Rereads.dict fun e _ => Json.rereads_text e.2
  rw [(read_eq_some.1 h).2]
  simp only [Json.present?, holds]
  exact reads.read

/-! ### Shapes -/

open Json (Shape)

theorem fits_setMember {members : List (String × Shape)} {room : Nat} {j : Json} {name : String}
    {v : Json} (h : j = .null ∨ (Shape.object members).fits (room + 1) j)
    (value : Shape.fitsMember members room name v) :
    (Shape.object members).fits (room + 1) (setMember j name v) := by
  obtain rfl | h := h
  · simpa [setMember, Shape.fits] using value
  · cases j with
    | obj ms =>
      simp only [Shape.fits, List.all_eq_true] at h
      simp only [setMember, Shape.fits, List.all_append, Bool.and_eq_true, List.all_eq_true]
      exact ⟨fun m mem => h m (List.mem_filter.1 mem).1, by simpa using value⟩
    | _ => simp [Shape.fits] at h

/-- The metadata of a pod are of their shape, wherever a pod may have them. -/
theorem fitsMember_metadata (room : Nat) (v : Json) :
    Shape.fitsMember (Shape.kinded "v1" "Pod" ++ Shape.optionals [("metadata", Shape.metadata),
      ("spec", Shape.podSpecification), ("status", Shape.podStatus)]) room "metadata" v
      = (Shape.optional Shape.metadata).fits room v := by
  simp [Shape.fitsMember, Shape.kinded, Shape.optionals]

/-- A pod stays one with another version in its metadata, and with other members that fit. -/
theorem describes_setMetadata (h : Shape.pod.describes document) (version : String) {metadata : Json}
    (fits : Shape.metadata.fits 126
        (setMember ((document.get? "metadata").getD .null) "resourceVersion" (.str version)) →
      Shape.metadata.fits 126 metadata) :
    Shape.pod.describes (setMember document "metadata" metadata) := by
  have given : (document.get? "metadata").getD .null = .null
      ∨ Shape.metadata.fits 126 ((document.get? "metadata").getD .null) := by
    cases document with
    | obj ms =>
      cases given : (Json.obj ms).get? "metadata" with
      | none => exact .inl rfl
      | some m =>
        have mem : ("metadata", m) ∈ ms := mem_of_get? given
        have all : ms.all fun m => Shape.fitsMember _ 126 m.1 m.2 := h
        exact Shape.fits_optional.1 ((fitsMember_metadata 126 m).symm.trans (List.all_eq_true.1 all _ mem))
    | _ => exact .inl rfl
  refine fits_setMember (.inr h) ?_
  rw [fitsMember_metadata, Shape.fits_optional]
  refine .inr (fits (fits_setMember given ?_))
  simp [Shape.fitsMember, Shape.optionals, Shape.each, Shape.fits]

/-- What is put is a pod as the server writes it. -/
theorem describes_replaced (h : Shape.pod.describes (rewrite o.document)) (pod : Pod) :
    Shape.pod.describes (o.replaced rewrite pod) := by
  refine describes_setMetadata h (toString pod.version) fun fits => fits_setMember (.inr fits) ?_
  simp [Shape.fitsMember, Shape.optionals, Shape.each, Shape.fits, Json.Shape.textDict]

theorem printable_replaced (h : (rewrite o.document).Printable) (pod : Pod) :
    (o.replaced rewrite pod).Printable := by
  have annotations : (annotationsJson pod.annotations).Printable := by
    refine Json.leavesOfMembers_iff.2 fun m mem => ?_
    obtain ⟨e, -, rfl⟩ := List.mem_map.1 mem
    exact Json.printable_str e.2
  exact printable_setMember h (printable_setMember (printable_setMember (printable_get? h _)
    (Json.printable_str _) _) annotations _) _

end PodObject

/-! ## Documents that are written again -/

/-- What is taken for granted of a library that writes again what it read: from what it writes it reads
the same object, and what it writes can be printed if that could from which it was read. -/
structure Rewrites (rewrite : Json → Json) : Prop where
  reads {document : Json} {o : PodObject} (h : PodObject.read document = some o) :
    PodObject.read (rewrite document) = some { o with document := rewrite document }
  printable {document : Json} {o : PodObject} (h : PodObject.read document = some o)
    (fine : document.Printable) : (rewrite document).Printable

open Json (Shape)

theorem metadataOf_known (document : Json) :
    metadataOf (Shape.pod.known document) = Shape.metadata.known (metadataOf document) := by
  have known : (Shape.pod.known document).present? "metadata"
      = (document.present? "metadata").map Shape.metadata.known := Shape.present?_known (by rfl) document
  rw [metadataOf, metadataOf, known]
  cases document.present? "metadata" <;> rfl

theorem containerOf_known (j : Json) : containerOf (Shape.containerStatus.known j) = containerOf j := by
  rw [containerOf, Shape.containerStatus, Shape.looseObject, Shape.textAt?_known_of_same fun _ => rfl,
    Shape.textAt?_known_of_same fun _ => rfl]
  rfl

theorem containersOf_known (document : Json) :
    containersOf (Shape.pod.known document) = containersOf document := by
  have known : (Shape.pod.known document).present? "status"
      = (document.present? "status").map Shape.podStatus.known := Shape.present?_known (by rfl) document
  have items (status : Json) : (Shape.podStatus.known status).itemsAt "containerStatuses"
      = (status.itemsAt "containerStatuses").map Shape.containerStatus.known :=
    Shape.itemsAt_known (by rfl) status
  have same : containerOf ∘ Shape.containerStatus.known = containerOf := funext containerOf_known
  rw [containersOf, containersOf, known]
  cases document.present? "status" with
  | none => rfl
  | some status => rw [Option.map_some, Option.getD_some, items, List.map_map, same, Option.getD_some]

theorem known_textDict (j : Json) : Json.Shape.textDict.known j = j := by
  cases j with
  | obj ms => exact congrArg Json.obj (List.map_id ms)
  | _ => rfl

/-- The metadata that are read of a pod. -/
def wantedMetadata : List String :=
  ["namespace", "name", "generateName", "uid", "resourceVersion", "annotations"]

/-- The metadata that are read of a pod are known. -/
theorem get?_metadataOf_known (document : Json) {k : String} (mem : k ∈ wantedMetadata) :
    (metadataOf (Shape.pod.known document)).get? k = (metadataOf document).get? k := by
  rw [metadataOf_known]
  refine Shape.get?_known_of_same (fun v => ?_) (metadataOf document)
  simp only [wantedMetadata, List.mem_cons, List.not_mem_nil, or_false] at mem
  obtain rfl | rfl | rfl | rfl | rfl | rfl := mem
  case inr.inr.inr.inr.inr => exact congrArg some (known_textDict v)
  all_goals rfl

/-- To write all that is known of a pod, and nothing else, is a way to write it again. -/
theorem rewrites_known : Rewrites Shape.pod.known where
  reads {document o} h := by
    obtain ⟨shaped, rfl⟩ := PodObject.read_eq_some.1 h
    refine PodObject.read_eq_some.2 ⟨Shape.fits_known _ shaped, ?_⟩
    have same {k : String} := @get?_metadataOf_known document k
    have text {k : String} (mem : k ∈ wantedMetadata) :
        (metadataOf (Shape.pod.known document)).textAt? k = (metadataOf document).textAt? k := by
      rw [Json.textAt?, Json.textAt?, same mem]
    have annotations : (metadataOf (Shape.pod.known document)).present? "annotations"
        = (metadataOf document).present? "annotations" := by
      rw [Json.present?, Json.present?, same (by decide)]
    have version : versionOf (Shape.pod.known document) = versionOf document := text (by decide)
    rw [containersOf_known, version, annotations, text (by decide), text (by decide), text (by decide),
      text (by decide)]
  printable _ fine := Shape.leaves_known _ fine

/-! ## Stored documents -/

/-- A document as a server stores it that gives it a version and keeps all else. -/
def stamped (document : Json) (version : Nat) : Json :=
  setMember document "metadata"
    (setMember ((document.get? "metadata").getD .null) "resourceVersion" (.str (toString version)))

theorem get?_stamped (document : Json) (version : Nat) (k : String) :
    (metadataOf (stamped document version)).get? k =
      if k = "resourceVersion" then some (.str (toString version))
      else (metadataOf document).get? k := by
  rw [get?_metadataOf, get?_metadataOf, stamped, get?_setMember, if_pos rfl, Option.getD_some,
    get?_setMember]

theorem sameBut_stamped (document : Json) (version : Nat) :
    SameBut ["resourceVersion"] document (stamped document version) where
  members k ne := by rw [stamped, get?_setMember, if_neg ne]
  metadata k aside := by
    have other : k ≠ "resourceVersion" := by
      rintro rfl
      exact aside (List.mem_cons_self ..)
    rw [get?_stamped, if_neg other]

theorem versionOf_stamped (document : Json) (version : Nat) :
    versionOf (stamped document version) = some (toString version) := by
  rw [versionOf, Json.textAt?, get?_stamped]
  rfl

theorem describes_stamped {document : Json} (h : Shape.pod.describes document) (version : Nat) :
    Shape.pod.describes (stamped document version) :=
  PodObject.describes_setMetadata h (toString version) id

theorem printable_stamped {document : Json} (h : document.Printable) (version : Nat) :
    (stamped document version).Printable :=
  printable_setMember h (printable_setMember (printable_get? h _) (Json.printable_str _) _) _

end Cluster

end NetAttach
