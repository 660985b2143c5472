import CanvasChart.Proofs.Json.Fields
import Mathlib.Data.List.Pairwise
import Mathlib.Data.List.Perm.Basic
import Mathlib.Logic.Function.Conjugate

set_option autoImplicit false

/-! Records read back from what they are written as. Every member moves the
record one step towards the one that was written; the steps commute, so that
the order of the members does not matter. -/

namespace CanvasChart.Json

variable {ρ σ α : Type} [JsonCodec α]

/-! ### One member -/

namespace RecordField

/-- What the field is written as moves every record by `move`. A field that is left out is one
that `start` already holds. -/
structure Restores (start held : ρ) (field : RecordField ρ) (move : ρ → ρ) : Prop where
  read_write : ∀ value, Reordered (field.write held) value →
    ∀ record, field.read value record = some (move record)
  omitted : field.omitted held = true → field.required = false ∧ move start = start

variable {start held : ρ}

private theorem of_read_write (name : String) {get : ρ → α} (put : α → ρ → ρ)
    (restorable : Restorable (get held)) (value : Json)
    (reordered : Reordered (encode (get held)) value) (record : ρ) :
    (RecordField.of name get put).read value record = some (put (get held) record) := by
  change (decode value).map (fun content => put content record) = _
  rw [restorable value reordered]
  rfl

theorem of_restores (name : String) {get : ρ → α} (put : α → ρ → ρ)
    (restorable : Restorable (get held)) :
    Restores start held (.of name get put) (put (get held)) :=
  ⟨of_read_write name put restorable, fun left => nomatch left⟩

theorem alias_restores (name other : String) {get : ρ → α} (put : α → ρ → ρ)
    (restorable : Restorable (get held)) :
    Restores start held ((RecordField.of name get put).withAlias other) (put (get held)) :=
  ⟨of_read_write name put restorable, fun left => nomatch left⟩

theorem mandatory_restores (name : String) {get : ρ → α} (put : α → ρ → ρ)
    (restorable : Restorable (get held)) :
    Restores start held (RecordField.of name get put).mandatory (put (get held)) :=
  ⟨of_read_write name put restorable, fun left => nomatch left⟩

theorem optional_restores (name : String) {get : ρ → Option α} (put : Option α → ρ → ρ)
    (restorable : Restorable (get held)) (absent : put none start = start) :
    Restores start held (.optional name get put) (put (get held)) where
  read_write := of_read_write name put restorable
  omitted left := ⟨rfl, by rw [Option.isNone_iff_eq_none.mp left, absent]⟩

theorem Restores.within {get : ρ → σ} {put : σ → ρ → ρ} {field : RecordField σ} {move : σ → σ}
    (restores : Restores (get start) (get held) field move)
    (same : put (get start) start = start) :
    Restores start held (field.within get put) fun record => put (move (get record)) record where
  read_write value reordered record := by
    change (field.read value (get record)).map _ = _
    rw [restores.read_write value reordered]
    rfl
  omitted left := ⟨(restores.omitted left).1, by rw [(restores.omitted left).2, same]⟩

end RecordField

/-! ### All members -/

namespace Record

open RecordField

variable (record : Record ρ)

/-- No field answers to the name of a later one. -/
def WellNamed : Prop :=
  record.fields.Pairwise fun field later =>
    ¬ (field.name = later.name || field.aliases.contains later.name)

instance : Decidable record.WellNamed :=
  inferInstanceAs (Decidable (List.Pairwise _ _))

/-- A member that moves every record it is read into by `move`. -/
def Reads (member : String × Json) (move : ρ → ρ) : Prop :=
  ∃ field, record.fieldOfMember? member.1 = some field ∧ field.name = member.1 ∧
    ∀ held, field.read member.2 held = some (move held)

def runMoves (moves : List (ρ → ρ)) (held : ρ) : ρ := moves.foldl (fun held move => move held) held

variable {record}

private theorem readMembers_of_reads {members : List (String × Json)} {moves : List (ρ → ρ)}
    (reads : List.Forall₂ record.Reads members moves) {seen : List String}
    (fresh : (seen ++ members.map Prod.fst).Nodup) (held : ρ) :
    record.readMembers members seen held =
      some (runMoves moves held, (members.map Prod.fst).reverse ++ seen) := by
  induction reads generalizing seen held with
  | nil => rfl
  | @cons member move members moves first _ ih =>
      obtain ⟨field, found, named, read⟩ := first
      obtain ⟨name, value⟩ := member
      dsimp only at found named read
      have unseen : name ∉ seen := fun held =>
        (List.nodup_append.mp fresh).2.2 name held name (by simp) rfl
      have freshRest : (name :: seen ++ members.map Prod.fst).Nodup :=
        (List.perm_middle.nodup_iff).mp fresh
      simp only [readMembers, found, named, List.contains_iff_mem, unseen, read, if_false]
      refine (ih freshRest (move held)).trans ?_
      simp only [runMoves, List.foldl_cons, List.map_cons, List.reverse_cons, List.append_assoc,
        List.singleton_append]

theorem WellNamed.names_nodup (wellNamed : record.WellNamed) :
    (record.fields.map RecordField.name).Nodup := by
  refine List.pairwise_map.mpr (wellNamed.imp fun {field later} silent same => silent ?_)
  simp [same]

theorem WellNamed.fieldOfMember?_name (wellNamed : record.WellNamed) {field : RecordField ρ}
    (member : field ∈ record.fields) : record.fieldOfMember? field.name = some field := by
  unfold WellNamed at wellNamed
  unfold fieldOfMember?
  generalize record.fields = fields at *
  induction fields with
  | nil => cases member
  | cons first rest ih =>
      obtain ⟨silent, wellNamed⟩ := List.pairwise_cons.mp wellNamed
      cases member with
      | head => exact List.find?_cons_of_pos (by simp)
      | tail _ later =>
          rw [List.find?_cons_of_neg (by exact silent field later)]
          exact ih wellNamed later

theorem read?_member {name : String} {field : RecordField ρ}
    (known : record.fieldOfMember? name = some field)
    (optional : ∀ field ∈ record.fields, field.required = false) (value : Json) :
    record.read? (.object [(name, value)]) = field.read value record.start := by
  change ((record.readMembers [(name, value)] [] record.start).bind fun read => _) = _
  simp only [readMembers, known, List.contains_nil, Bool.false_eq_true, if_false]
  cases field.read value record.start with
  | none => rfl
  | some next =>
      refine if_pos (List.all_eq_true.mpr fun other member => ?_)
      rw [optional other member]
      rfl

private theorem exists_kept {start held : ρ} {fields : List (RecordField ρ)} {moves : List (ρ → ρ)}
    (restores : List.Forall₂ (Restores start held) fields moves)
    (commuting : moves.Pairwise Function.Commute)
    (current : ρ) (fixed : ∀ move ∈ moves, move start = start → move current = current) :
    ∃ kept, List.Forall₂ (Restores start held)
        (fields.filter fun field => !field.omitted held) kept ∧
      kept.Sublist moves ∧ runMoves kept current = runMoves moves current := by
  induction restores generalizing current with
  | nil => exact ⟨[], .nil, .slnil, rfl⟩
  | @cons field move fields moves first _ ih =>
      obtain ⟨commutes, commuting⟩ := List.pairwise_cons.mp commuting
      obtain ⟨moveFixed, fixed⟩ := List.forall_mem_cons.mp fixed
      cases left : field.omitted held with
      | true =>
          have still : move current = current := moveFixed (first.omitted left).2
          obtain ⟨kept, restored, sublist, same⟩ := ih commuting current fixed
          refine ⟨kept, ?_, .cons _ sublist, ?_⟩
          · rwa [List.filter_cons_of_neg (by simp [left])]
          · rw [same, runMoves, runMoves, List.foldl_cons, still]
      | false =>
          obtain ⟨kept, restored, sublist, same⟩ := ih commuting (move current)
            fun other member unmoved => by
              rw [← commutes other member, fixed other member unmoved]
          refine ⟨move :: kept, ?_, .cons_cons _ sublist, same⟩
          rw [List.filter_cons_of_pos (by simp [left])]
          exact .cons first restored

private theorem exists_related {β γ : Type} {related : β → γ → Prop} {firsts : List β}
    {seconds : List γ}
    (each : List.Forall₂ related firsts seconds) {second : γ} (member : second ∈ seconds) :
    ∃ first ∈ firsts, related first second := by
  induction each with
  | nil => cases member
  | @cons first _ firsts _ head _ ih =>
      cases member with
      | head => exact ⟨first, List.mem_cons_self, head⟩
      | tail _ later =>
          obtain ⟨found, member, related⟩ := ih later
          exact ⟨found, List.mem_cons_of_mem first member, related⟩

private theorem commuting_of_separate {start held : ρ} {fields : List (RecordField ρ)}
    {moves : List (ρ → ρ)} (restores : List.Forall₂ (Restores start held) fields moves)
    (separate : fields.Pairwise RecordField.Separate) :
    moves.Pairwise Function.Commute := by
  induction restores with
  | nil => exact .nil
  | @cons field move fields moves first rest ih =>
      obtain ⟨apart, separate⟩ := List.pairwise_cons.mp separate
      refine .cons (fun other member record => ?_) (ih separate)
      obtain ⟨otherField, otherMember, otherRestores⟩ := exists_related rest member
      have comm := (apart otherField otherMember).comm (field.write held)
        (otherField.write held) record
      simpa only [first.read_write _ (.refl _), otherRestores.read_write _ (.refl _),
        Option.bind_some, Option.some.injEq] using comm.symm

private theorem reads_of_restores {start held : ρ} {fields : List (RecordField ρ)}
    {moves : List (ρ → ρ)} (restores : List.Forall₂ (Restores start held) fields moves)
    (known : ∀ field ∈ fields, record.fieldOfMember? field.name = some field)
    {changed : List (String × Json)}
    (each : List.Forall₂ (SameName Reordered)
      (fields.map fun field => (field.name, field.write held)) changed) :
    List.Forall₂ record.Reads changed moves ∧
      changed.map Prod.fst = fields.map RecordField.name := by
  induction restores generalizing changed with
  | nil =>
      cases each
      exact ⟨.nil, rfl⟩
  | @cons field move fields moves first _ ih =>
      obtain _ | ⟨⟨_, value⟩, each⟩ := each
      obtain ⟨fieldKnown, known⟩ := List.forall_mem_cons.mp known
      obtain ⟨reads, names⟩ := ih known each
      exact ⟨.cons ⟨field, fieldKnown, rfl, first.read_write _ value⟩ reads,
        congrArg (field.name :: ·) names⟩

/-- A record is read back when each of its fields is, in every order of its members. -/
theorem read?_write {held : ρ} {moves : List (ρ → ρ)} (wellNamed : record.WellNamed)
    (separate : record.fields.Pairwise RecordField.Separate)
    (restores : List.Forall₂ (Restores record.start held) record.fields moves)
    (whole : runMoves moves record.start = held) {value : Json}
    (reordered : Reordered (record.write held) value) : record.read? value = some held := by
  have commuting := commuting_of_separate restores separate
  obtain ⟨kept, restored, sublist, same⟩ := exists_kept restores commuting record.start
    fun _ _ unmoved => unmoved
  obtain ⟨changed, others, rfl, order, each⟩ := reordered.exists_members
  obtain ⟨reads, names⟩ := reads_of_restores restored
    (fun field member => wellNamed.fieldOfMember?_name (List.mem_of_mem_filter member)) each
  obtain ⟨moved, readsOthers, movedOrder⟩ := List.perm_comp_forall₂ order.symm reads
  have written : (others.map Prod.fst).Perm
      ((record.fields.filter fun field => !field.omitted held).map RecordField.name) := by
    rw [← names]
    exact (order.map Prod.fst).symm
  have fresh : ([] ++ others.map Prod.fst).Nodup :=
    written.nodup_iff.mpr (wellNamed.names_nodup.sublist (List.filter_sublist.map _))
  have reached : runMoves moved record.start = held := by
    have symmetric : Std.Symm (α := ρ → ρ) Function.Commute := ⟨fun _ _ => Function.Commute.symm⟩
    have keptCommuting := (commuting.sublist sublist).forall_of_forall fun _ _ => .refl _
    rw [← whole, ← same]
    refine movedOrder.foldl_eq' (fun first firstMember second secondMember current => ?_) _
    exact keptCommuting (movedOrder.subset secondMember) (movedOrder.subset firstMember) current
  have present : ∀ field ∈ record.fields,
      (!field.required || ((others.map Prod.fst).reverse ++ []).contains field.name) = true := by
    intro field member
    obtain ⟨move, _, fieldRestores⟩ := exists_related restores.flip member
    cases left : field.omitted held with
    | true => simp [(fieldRestores.omitted left).1]
    | false =>
        have : field.name ∈ others.map Prod.fst :=
          written.symm.subset (List.mem_map_of_mem (List.mem_filter.mpr ⟨member, by simp [left]⟩))
        simp [this]
  change ((record.readMembers others [] record.start).bind fun read => _) = some held
  rw [readMembers_of_reads readsOthers fresh, reached]
  exact if_pos (List.all_eq_true.mpr present)

end Record
end CanvasChart.Json
