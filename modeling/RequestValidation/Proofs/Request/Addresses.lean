import RequestValidation.Proofs.Request.OneLocation
/-!
# Paths as addresses

What is found is told by a path without wildcards. In a document whose keys hold none of the signs
that path syntax reserves the path is an address: as a field of its own it leads back to the value,
and to nothing else, however the field was written that found it.

Results:
* `Walks.spell_address`, `Walks.follow?_address`: the steps of a walk without its wildcards are
  written as the walk is, and lead to its value.
* `Walks.ofPath_writePath`: they are read back from what is written.
* `found_again_by_path`: what is found is found again by its path.
-/
namespace RequestValidation

/-- A document whose values have addresses: the keys of its objects are steps of their own, each
once, and its arrays have no more items than there are indices. -/
inductive Json.Addressable : Json → Prop
  | null : Addressable .null
  | bool (b : Bool) : Addressable (.bool b)
  | number (n : Number) : Addressable (.number n)
  | string (s : String) : Addressable (.string s)
  | array {vs : List Json} (hlength : vs.length ≤ Segment.maxIndex + 1)
      (h : ∀ v ∈ vs, Addressable v) : Addressable (.array vs)
  | object {ms : List (String × Json)} (hnodup : (ms.map Prod.fst).Nodup)
      (hkeys : ∀ p ∈ ms, StepKey p.1) (h : ∀ p ∈ ms, Addressable p.2) : Addressable (.object ms)

namespace Json.Addressable

/-- An item has an index that can be read, and addresses in it. -/
theorem item {vs : List Json} {i : Nat} {v : Json} (h : (Json.array vs).Addressable)
    (hv : vs[i]? = some v) : i ≤ Segment.maxIndex ∧ v.Addressable := by
  cases h with
  | array hlength hitems =>
    have hi : i < vs.length := (List.getElem?_eq_some_iff.mp hv).1
    exact ⟨by omega, hitems v (List.mem_of_getElem? hv)⟩

/-- A member is the only one of its name, which is a step of its own, and has addresses in it. -/
theorem member {ms : Members Json} {k : String} {v : Json} (h : (Json.object ms).Addressable)
    (hv : (k, v) ∈ ms) : ms.get? k = some v ∧ StepKey k ∧ v.Addressable := by
  cases h with
  | object hnodup hkeys hvalues =>
    exact ⟨Members.get?_of_mem hnodup hv, hkeys _ hv, hvalues _ hv⟩

end Json.Addressable

/-- The step without a wildcard that takes a turn. A step by index stays one, whatever it is taken
in. -/
def Segment.taken : Segment → Turn → Segment
  | .index i, _ => .index i
  | _, .item i => .index i
  | _, .member k => .key k

/-- The steps without wildcards that lead to a position. -/
def address (segments : List Segment) (position : Position) : List Segment :=
  List.zipWith Segment.taken segments position

/-! ## The address of a walk -/

namespace Walks

variable {v w : Json} {segments : List Segment} {position : Position}

/-- The address of a walk is written as the walk is. -/
theorem spell_address (h : Walks v segments position w) (path : String) :
    spell (address segments position) path = writePath segments position path := by
  induction h generalizing path with
  | here => rfl
  | key _ _ ih | item _ _ ih | numbered _ _ ih | anyItem _ _ ih | anyMember _ _ ih => exact ih _

/-- The address of a walk leads to where the walk does. -/
theorem follow?_address (hv : v.Addressable) (h : Walks v segments position w) :
    follow? (some v) (address segments position) = some w := by
  induction h with
  | here => rfl
  | @key ms k u _ _ _ hu _ ih =>
    obtain ⟨-, -, hnext⟩ := hv.member (Members.mem_of_get? hu)
    have hstep : (Json.object ms).member? k = some u := hu
    simpa [address, Segment.taken, follow?, hstep] using ih hnext
  | @item vs i u _ _ _ hu _ ih =>
    obtain ⟨-, hnext⟩ := hv.item hu
    have hstep : (Json.array vs).index? i = some u := hu
    simpa [address, Segment.taken, follow?, hstep] using ih hnext
  | @numbered ms i u _ _ _ hu _ ih =>
    obtain ⟨-, -, hnext⟩ := hv.member (Members.mem_of_get? hu)
    have hstep : (Json.object ms).index? i = some u := hu
    simpa [address, Segment.taken, follow?, hstep] using ih hnext
  | @anyItem vs i u _ _ _ hu _ ih =>
    obtain ⟨-, hnext⟩ := hv.item hu
    have hstep : (Json.array vs).index? i = some u := hu
    simpa [address, Segment.taken, follow?, hstep] using ih hnext
  | @anyMember ms k u _ _ _ hu _ ih =>
    -- a wildcard takes any member, a key only the first of its name
    obtain ⟨honly, -, hnext⟩ := hv.member hu
    have hstep : (Json.object ms).member? k = some u := honly
    simpa [address, Segment.taken, follow?, hstep] using ih hnext

/-- Each step of the address is read back from its path. -/
theorem readsBack_address (hv : v.Addressable) (h : Walks v segments position w)
    (hrange : ∀ s ∈ segments, s.InRange) : ∀ s ∈ address segments position, s.ReadsBack := by
  induction h with
  | here => exact fun _ hs => absurd hs List.not_mem_nil
  | key hu _ ih =>
    obtain ⟨-, hkey, hnext⟩ := hv.member (Members.mem_of_get? hu)
    obtain ⟨-, hrest⟩ := List.forall_mem_cons.mp hrange
    exact List.forall_mem_cons.mpr ⟨hkey, ih hnext hrest⟩
  | item hu _ ih =>
    obtain ⟨-, hnext⟩ := hv.item hu
    obtain ⟨hi, hrest⟩ := List.forall_mem_cons.mp hrange
    exact List.forall_mem_cons.mpr ⟨hi, ih hnext hrest⟩
  | numbered hu _ ih =>
    obtain ⟨-, -, hnext⟩ := hv.member (Members.mem_of_get? hu)
    obtain ⟨hi, hrest⟩ := List.forall_mem_cons.mp hrange
    exact List.forall_mem_cons.mpr ⟨hi, ih hnext hrest⟩
  | anyItem hu _ ih =>
    obtain ⟨hi, hnext⟩ := hv.item hu
    obtain ⟨-, hrest⟩ := List.forall_mem_cons.mp hrange
    exact List.forall_mem_cons.mpr ⟨hi, ih hnext hrest⟩
  | anyMember hu _ ih =>
    obtain ⟨-, hkey, hnext⟩ := hv.member hu
    obtain ⟨-, hrest⟩ := List.forall_mem_cons.mp hrange
    exact List.forall_mem_cons.mpr ⟨hkey, ih hnext hrest⟩

/-- The address of a walk is read back from the path that the walk writes. -/
theorem ofPath_writePath (hv : v.Addressable) (h : Walks v segments position w)
    (hrange : ∀ s ∈ segments, s.InRange) :
    Segment.ofPath (writePath segments position "") = address segments position := by
  rw [← h.spell_address]
  exact Segment.ofPath_spell_empty (h.readsBack_address hv hrange)

end Walks

/-! ## What is found -/

/-- **What is found is found again by its path.** In a location other than the headers, whose
document has addresses, a field may be written in any way: whatever value it finds, the path of the
value, taken as a field, finds the value at that path and nothing else. -/
theorem found_again_by_path {r : Request} {l : Location} {field : String} {o : Occurrence}
    (hl : l ≠ .headers) (hdocument : (r.location l).Addressable)
    (ho : o ∈ occurrences r [field] [l]) (hfound : o.value ≠ none) :
    occurrences r [o.path] [l] = [{ o with field := o.path }] := by
  obtain ⟨hfield, hlocation, -⟩ := mem_occurrences_imp ho
  obtain ⟨location, path, field', value⟩ := o
  obtain rfl : location = l := List.mem_singleton.mp hlocation
  obtain rfl : field' = field := hfield
  obtain ⟨w, rfl⟩ := Option.ne_none_iff_exists'.mp hfound
  -- the value comes from a walk through the document, which writes the path
  have hvalue := (found_mem_occurrences_iff.mp ho).2
  obtain ⟨⟨f, l, root, position, v, hf, _, hroot, hwalk⟩, hsl, hsp, hsw⟩ :=
    sighting_of_valueAt? (List.mem_singleton_self field') (List.mem_singleton_self location) hvalue
  obtain rfl : l = location := hsl
  obtain rfl : v = w := hsw
  obtain rfl : f = field' := List.mem_singleton.mp hf
  have hdoc : root.Addressable := by
    unfold Request.root? at hroot
    split at hroot
    · cases hroot
    · obtain rfl := Option.some.inj hroot
      exact hdocument
  have hread : Segment.ofPath path = address (Segment.ofPath (lookupPath l f)) position := by
    rw [← hsp]
    exact hwalk.ofPath_writePath hdoc Segment.inRange_of_mem_ofPath
  -- so as a field it has no wildcard, and its steps are the address of the walk
  have hfree : WildcardFree path := by
    intro hwild
    rw [hread] at hwild
    exact hwalk.readsBack_address hdoc Segment.inRange_of_mem_ofPath _ hwild
  have hpath : pathIn path l = path := by
    rw [pathIn, lookupPath_of_ne_headers hl, hread, hwalk.spell_address]
    exact hsp
  have hlookup : lookup? r path l = some v := by
    rw [lookup?, lookupPath_of_ne_headers hl, hread, hroot]
    exact hwalk.follow?_address hdoc
  rw [occurrences_singleton hfree, occurrenceIn, hpath, hlookup]

/-- A body with the tags of two users. -/
def roster : Request :=
  { body := .object [("users", .array [
      .object [("name", .string "ann"), ("tags", .array [.bool true, .null])],
      .object [("name", .string "bob")]])] }

theorem roster_addressable : (roster.location .body).Addressable := by
  refine .object (by decide) (by decide) (List.forall_mem_singleton.mpr (.array (by decide) ?_))
  refine List.forall_mem_cons.mpr ⟨.object (by decide) (by decide) ?_, List.forall_mem_singleton.mpr
    (.object (by decide) (by decide) (List.forall_mem_singleton.mpr (.string "bob")))⟩
  refine List.forall_mem_cons.mpr ⟨.string "ann", List.forall_mem_singleton.mpr
    (.array (by decide) ?_)⟩
  exact List.forall_mem_cons.mpr ⟨.bool true, List.forall_mem_singleton.mpr .null⟩

/-- A tag found with a wildcard, a quoted key and a signed index is found again. -/
theorem roster_tag_found_again :
    Location.body ≠ .headers ∧ (roster.location .body).Addressable ∧
      ⟨.body, "users[0].tags[1]", "users.*[\"tags\"][+01]", some .null⟩ ∈
        occurrences roster ["users.*[\"tags\"][+01]"] [.body] ∧
      occurrences roster ["users[0].tags[1]"] [.body] =
        [⟨.body, "users[0].tags[1]", "users[0].tags[1]", some .null⟩] := by
  have hocc : occurrences roster ["users.*[\"tags\"][+01]"] [.body] =
      [⟨.body, "users[0].tags[1]", "users.*[\"tags\"][+01]", some .null⟩,
        ⟨.body, "users[1].tags[1]", "users.*[\"tags\"][+01]", none⟩] := by rfl
  have hmem : (⟨.body, "users[0].tags[1]", "users.*[\"tags\"][+01]", some .null⟩ : Occurrence) ∈
      occurrences roster ["users.*[\"tags\"][+01]"] [.body] := by
    rw [hocc]
    exact List.mem_cons_self
  have hbody : Location.body ≠ .headers := by decide
  have hagain := found_again_by_path hbody roster_addressable hmem (Option.some_ne_none _)
  exact ⟨hbody, roster_addressable, hmem, hagain⟩

end RequestValidation
