import CanvasChart.Json.Codec
import CanvasChart.Proofs.Binary64.Finite
import Mathlib.Data.List.Forall2

set_option autoImplicit false

/-! Values that are read back from what they are written as. The members of an
object may have changed their order in between, since an object is a map. -/

namespace CanvasChart.Json

/-! ### Values of a document -/

mutual

/-- A document can hold the value: its whole numbers fit 64 bits, its other numbers are finite,
and all of it can be read. -/
def genuine : Json → Bool
  | .null | .bool _ | .string _ => true
  | .integer value => -2 ^ 63 ≤ value ∧ value < 2 ^ 64
  | .real value => value.isFinite
  | .array items => genuineItems items
  | .object members => genuineMembers members
  | .unreadable => false

def genuineItems : List Json → Bool
  | [] => true
  | item :: rest => genuine item && genuineItems rest

def genuineMembers : List (String × Json) → Bool
  | [] => true
  | (_, value) :: rest => genuine value && genuineMembers rest

end

/-! ### Order of members -/

inductive SameName (related : Json → Json → Prop) : String × Json → String × Json → Prop where
  | mk (name : String) {old new : Json} (value : related old new) :
      SameName related (name, old) (name, new)

/-- The second value differs from the first in the order of the members of its objects only. -/
inductive Reordered : Json → Json → Prop where
  | refl (value : Json) : Reordered value value
  | array {items others : List Json} (each : List.Forall₂ Reordered items others) :
      Reordered (.array items) (.array others)
  | object {members changed others : List (String × Json)}
      (each : List.Forall₂ (SameName Reordered) members changed)
      (order : changed.Perm others) : Reordered (.object members) (.object others)

def isAtom : Json → Bool
  | .array _ | .object _ => false
  | _ => true

theorem Reordered.eq_of_isAtom {value other : Json} (reordered : Reordered value other)
    (atom : value.isAtom = true) : other = value := by
  cases reordered with
  | refl => rfl
  | array | object => cases atom

theorem Reordered.exists_items {items : List Json} {other : Json}
    (reordered : Reordered (.array items) other) :
    ∃ others, other = .array others ∧ List.Forall₂ Reordered items others := by
  cases reordered with
  | refl => exact ⟨items, rfl, List.forall₂_same.mpr fun item _ => .refl item⟩
  | array each => exact ⟨_, rfl, each⟩

theorem Reordered.exists_members {members : List (String × Json)} {other : Json}
    (reordered : Reordered (.object members) other) :
    ∃ changed others, other = .object others ∧ changed.Perm others ∧
      List.Forall₂ (SameName Reordered) members changed := by
  cases reordered with
  | refl =>
      exact ⟨members, members, rfl, .refl members,
        List.forall₂_same.mpr fun entry _ => ⟨entry.1, .refl entry.2⟩⟩
  | object each order => exact ⟨_, _, rfl, order, each⟩

theorem Reordered.exists_member {name : String} {value other : Json}
    (reordered : Reordered (.object [(name, value)]) other) :
    ∃ changed, other = .object [(name, changed)] ∧ Reordered value changed := by
  obtain ⟨changed, others, rfl, order, each⟩ := reordered.exists_members
  obtain _ | ⟨⟨_, inner⟩, _ | _⟩ := each
  cases List.perm_singleton.mp order.symm
  exact ⟨_, rfl, inner⟩

/-! ### Restoring -/

variable {α : Type} [JsonCodec α]

/-- The value is read back from what it is written as, in every order of members. -/
def Restorable (content : α) : Prop :=
  ∀ value, Reordered (encode content) value → (decode value : Option α) = some content

theorem Restorable.decode_encode {content : α} (restorable : Restorable content) :
    (decode (encode content) : Option α) = some content :=
  restorable _ (.refl _)

theorem restorable_of_isAtom {content : α} (atom : (encode content).isAtom = true)
    (decoded : (decode (encode content) : Option α) = some content) : Restorable content := by
  intro value reordered
  rw [reordered.eq_of_isAtom atom]
  exact decoded

/-- Whatever is read from a genuine value is read back from what it is written as. -/
class Echoes (α : Type) [JsonCodec α] : Prop where
  restorable {value : Json} {content : α} (isGenuine : value.genuine = true)
    (decoded : decode value = some content) : Restorable content

theorem bool_restorable (content : Bool) : Restorable content := restorable_of_isAtom rfl rfl

instance : Echoes Bool := ⟨fun _ _ => bool_restorable _⟩

theorem string_restorable (content : String) : Restorable content := restorable_of_isAtom rfl rfl

instance : Echoes String := ⟨fun _ _ => string_restorable _⟩

private theorem decodeBelow_ofNat {value bound : Nat} (below : value < bound) :
    decodeBelow bound (.integer value) = some value :=
  if_pos below

theorem uint32_restorable (content : UInt32) : Restorable content := by
  refine restorable_of_isAtom rfl ?_
  change (decodeBelow UInt32.size (.integer content.toNat)).map UInt32.ofNat = some content
  rw [decodeBelow_ofNat content.toNat_lt, Option.map_some, UInt32.ofNat_toNat]

instance : Echoes UInt32 := ⟨fun _ _ => uint32_restorable _⟩

theorem uint64_restorable (content : UInt64) : Restorable content := by
  refine restorable_of_isAtom rfl ?_
  change (decodeBelow UInt64.size (.integer content.toNat)).map UInt64.ofNat = some content
  rw [decodeBelow_ofNat content.toNat_lt, Option.map_some, UInt64.ofNat_toNat]

theorem encode_of_isFinite {content : Float} (finite : content.isFinite = true) :
    encode content = Json.real content :=
  if_pos finite

theorem float_restorable {content : Float} (finite : content.isFinite = true) :
    Restorable content := by
  intro value reordered
  rw [encode_of_isFinite finite] at reordered
  rw [reordered.eq_of_isAtom rfl]
  rfl

theorem isFinite_of_decode {value : Json} {content : Float} (isGenuine : value.genuine = true)
    (decoded : decode value = some content) : content.isFinite = true := by
  cases value with
  | null | bool | string | array | object | unreadable => cases decoded
  | real =>
      cases decoded
      exact isGenuine
  | integer whole =>
      have bounds : -2 ^ 63 ≤ whole ∧ whole < 2 ^ 64 := of_decide_eq_true isGenuine
      cases whole with
      | ofNat magnitude =>
          cases decoded
          exact Binary64.isFinite_ofNat (Int.ofNat_lt.mp bounds.2)
      | negSucc less =>
          cases decoded
          exact Binary64.isFinite_neg (Binary64.isFinite_ofNat (by omega))

instance : Echoes Float := ⟨fun isGenuine decoded =>
  float_restorable (isFinite_of_decode isGenuine decoded)⟩

/-- A written value is never null, so that null is free to stand for nothing. -/
theorem Restorable.some {content : α} (restorable : Restorable content)
    (null : (decode .null : Option α) = none) : Restorable (some content) := by
  intro value reordered
  have decoded := restorable value reordered
  cases value with
  | null =>
      rw [null] at decoded
      cases decoded
  | bool | integer | real | string | array | object | unreadable =>
      exact congrArg (Option.map Option.some) decoded

private theorem none_restorable : Restorable (none : Option α) := restorable_of_isAtom rfl rfl

theorem option_restorable {content : Option α} (null : (decode .null : Option α) = none)
    (each : ∀ part ∈ content, Restorable part) : Restorable content := by
  cases content with
  | none => exact none_restorable
  | some part => exact (each part rfl).some null

theorem option_echoes [Echoes α] (null : (decode .null : Option α) = none) :
    Echoes (Option α) := by
  refine ⟨fun {value content} isGenuine decoded => option_restorable null ?_⟩
  rintro part rfl
  cases value with
  | null => cases decoded
  | bool | integer | real | string | array | object | unreadable =>
      obtain ⟨inner, decodedInner, same⟩ := Option.map_eq_some_iff.mp decoded
      cases same
      exact Echoes.restorable isGenuine decodedInner

theorem list_restorable {contents : List α} (each : ∀ part ∈ contents, Restorable part) :
    Restorable contents := by
  intro value reordered
  obtain ⟨others, rfl, changed⟩ := reordered.exists_items
  change others.mapM decode = some contents
  clear reordered
  induction contents generalizing others with
  | nil =>
      cases changed
      rfl
  | cons first rest ih =>
      obtain _ | ⟨firstChanged, restChanged⟩ := changed
      have firstRead := each first List.mem_cons_self _ firstChanged
      have restRead := ih (fun part held => each part (List.mem_cons_of_mem _ held)) _
        restChanged
      rw [List.mapM_cons, firstRead, restRead]
      rfl

private theorem restorable_of_mapM [Echoes α] {items : List Json} {contents : List α}
    (isGenuine : genuineItems items = true) (decoded : items.mapM decode = some contents) :
    ∀ part ∈ contents, Restorable part := by
  induction items generalizing contents with
  | nil =>
      cases decoded
      exact fun part held => nomatch held
  | cons item rest ih =>
      obtain ⟨itemGenuine, restGenuine⟩ := Bool.and_eq_true_iff.mp isGenuine
      rw [List.mapM_cons] at decoded
      obtain ⟨first, firstRead, decoded⟩ := Option.bind_eq_some_iff.mp decoded
      obtain ⟨others, restRead, same⟩ := Option.bind_eq_some_iff.mp decoded
      cases same
      exact List.forall_mem_cons.mpr
        ⟨Echoes.restorable itemGenuine firstRead, ih restGenuine restRead⟩

instance [Echoes α] : Echoes (List α) where
  restorable {value contents} isGenuine decoded := by
    cases value with
    | null | bool | integer | real | string | object | unreadable => cases decoded
    | array items => exact list_restorable (restorable_of_mapM isGenuine decoded)

end CanvasChart.Json
