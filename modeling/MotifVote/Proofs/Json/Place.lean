import Mathlib.Data.List.Nodup
import MotifVote.Proofs.Json.Decoding

/-!
# Parts of a record in place

A decoder of records finds the parts of a draft in text order. Seen from one part, it meets what
stands before this part, then the part itself, then what stands behind it, and stops at the first
fault on the way. Where there is none, it puts the part in its place among what else it has found,
without looking at the part again. So two drafts that differ in one part give the same outcome if
this part does.

The law is proved of a field of a record, in both forms of a record, and of an item of a list. It
composes, so it holds of a part at any depth.
-/

namespace MotifVote.Json

variable {α β γ σ : Type}

/-- A decoder reads a part of a draft in its place: what it finds before the part and behind it does
not depend on the part. The whole is put together in one of some ways. -/
def Decoder.ReadsInPlace (whole : Decoder β) (fill : Draft → Draft) (part : Decoder α)
    (IsWay : (α → β) → Prop) : Prop :=
  ∃ (before : Except Fault Unit) (after : Except Fault (α → β)),
    (∀ draft, whole (fill draft) = do
      before
      let value ← part draft
      return (← after) value) ∧
    ∀ put, after = .ok put → IsWay put

section ReadsInPlace

variable {whole : Decoder γ} {middle : Decoder β} {part : Decoder α}
variable {fill fillMiddle : Draft → Draft}
variable {IsWay : (β → γ) → Prop} {IsMiddleWay : (α → β) → Prop} {IsPartWay : (α → γ) → Prop}

namespace Decoder

theorem ReadsInPlace.comp (outer : ReadsInPlace whole fill middle IsWay)
    (inner : ReadsInPlace middle fillMiddle part IsMiddleWay)
    (ways : ∀ put putMiddle, IsWay put → IsMiddleWay putMiddle → IsPartWay (put ∘ putMiddle)) :
    ReadsInPlace whole (fun draft => fill (fillMiddle draft)) part IsPartWay := by
  rcases outer with ⟨before, after, reads, isWay⟩
  rcases inner with ⟨beforeMiddle, afterMiddle, readsMiddle, isMiddleWay⟩
  refine ⟨before >>= fun _ => beforeMiddle,
    afterMiddle >>= fun putMiddle => after >>= fun put => .ok (put ∘ putMiddle), ?_, ?_⟩
  · intro draft
    rw [reads, readsMiddle]
    -- On both sides the first fault on the way is the outcome.
    cases before
    case error => rfl
    cases beforeMiddle
    case error => rfl
    cases part draft
    case error => rfl
    cases afterMiddle
    case error => rfl
    cases after <;> rfl
  · intro put both
    rcases afterMiddle with _ | putMiddle
    · cases both
    rcases after with _ | putWhole
    · cases both
    · cases both
      exact ways putWhole putMiddle (isWay putWhole rfl) (isMiddleWay putMiddle rfl)

/-- A fault before the part is the outcome, whatever the part is. -/
theorem readsInPlace_of_fault_before (fault : Fault)
    (faulty : ∀ draft, whole (fill draft) = .error fault) :
    ReadsInPlace whole fill part IsPartWay := by
  refine ⟨.error fault, .error fault, faulty, ?_⟩
  rintro put ⟨⟩

/-- A fault behind the part is the outcome if there is none in the part. -/
theorem readsInPlace_of_fault_behind (fault : Fault)
    (faulty : ∀ draft, whole (fill draft) = part draft >>= fun _ => .error fault) :
    ReadsInPlace whole fill part IsPartWay := by
  refine ⟨.ok (), .error fault, faulty, ?_⟩
  rintro put ⟨⟩

theorem readsInPlace_of_way {put : α → γ} (way : IsPartWay put)
    (reads : ∀ draft, whole (fill draft) = part draft >>= fun value => .ok (put value)) :
    ReadsInPlace whole fill part IsPartWay := by
  refine ⟨.ok (), .ok put, reads, ?_⟩
  rintro _ ⟨⟩
  exact way

/-- What is made of the whole in the end, and may be refused, does not look at the part again. -/
theorem ReadsInPlace.andThen {next : β → Except Fault γ}
    (reads : ReadsInPlace middle fill part IsMiddleWay)
    (settles : ∀ put, IsMiddleWay put → (∃ fault, ∀ value, next (put value) = .error fault) ∨
      ∃ way, IsPartWay way ∧ ∀ value, next (put value) = .ok (way value)) :
    ReadsInPlace (fun draft => middle draft >>= next) fill part IsPartWay := by
  rcases reads with ⟨_ | ⟨⟩, after, reads, isWay⟩
  case error fault =>
    refine readsInPlace_of_fault_before fault fun draft => ?_
    rw [reads]
    rfl
  rcases after with fault | put
  · refine readsInPlace_of_fault_behind fault fun draft => ?_
    rw [reads]
    cases part draft <;> rfl
  rcases settles put (isWay put rfl) with ⟨fault, refused⟩ | ⟨way, good, settled⟩
  · refine readsInPlace_of_fault_behind fault fun draft => ?_
    rw [reads]
    rcases part draft with _ | value
    · rfl
    · exact refused value
  · refine readsInPlace_of_way good fun draft => ?_
    rw [reads]
    rcases part draft with _ | value
    · rfl
    · exact settled value

end Decoder

end ReadsInPlace

section List

theorem length_of_mapM_eq_ok {ε : Type} {decode : β → Except ε α} {items : List β}
    {values : List α} (found : items.mapM decode = .ok values) : values.length = items.length := by
  induction items generalizing values with
  | nil =>
      cases found
      rfl
  | cons item items ih =>
      rw [List.mapM_cons] at found
      rcases first : decode item with _ | value
      · simp [first, bind, Except.bind] at found
      rcases rest : items.mapM decode with _ | others
      · simp [first, rest, bind, Except.bind] at found
      · simp only [first, rest, bind, Except.bind, pure, Except.pure, Except.ok.injEq] at found
        rw [← found, List.length_cons, List.length_cons, ih rest]

/-- An item of a list is read in place, and becomes the value at its place. -/
theorem Decoder.readsInPlace_item (item : Decoder α) {depth : Nat} (shallow : depth ≤ depthLimit)
    (before after : List Draft) :
    ReadsInPlace (Decoder.list item) (fun draft => .array depth (before ++ draft :: after)) item
      fun put => ∃ earlier later, earlier.length = before.length ∧
        put = fun value => earlier ++ value :: later := by
  have list : ∀ draft, Decoder.list item (.array depth (before ++ draft :: after)) = do
      let earlier ← before.mapM item
      let value ← item draft
      let later ← after.mapM item
      return earlier ++ value :: later := by
    intro draft
    rw [Decoder.list, if_pos shallow, List.mapM_append, List.mapM_cons]
    simp only [bind_assoc, pure_bind]
  rcases found : before.mapM item with fault | earlier
  · refine readsInPlace_of_fault_before fault fun draft => ?_
    rw [list, found]
    rfl
  rcases foundLater : after.mapM item with fault | later
  · refine readsInPlace_of_fault_behind fault fun draft => ?_
    rw [list, found, foundLater]
    rfl
  · refine readsInPlace_of_way ⟨earlier, later, length_of_mapM_eq_ok found, rfl⟩ fun draft => ?_
    rw [list, found, foundLater]
    rfl

end List

section Record

/-- A field does not look at what another setter has set, and leaves it as it is. -/
def Field.IsApart (field : Field σ) (set : α → σ → σ) : Prop :=
  ∀ value built, field.isSet (set value built) = field.isSet built ∧
    ∀ draft, field.read draft (set value built) = set value <$> field.read draft built

theorem Field.isApart_of {name : String} {optional : Bool} {get : σ → Option β}
    {setOther : β → σ → σ} {decode : Decoder β} {set : α → σ → σ}
    (unseen : ∀ value built, get (set value built) = get built)
    (commutes : ∀ value other built,
      setOther other (set value built) = set value (setOther other built)) :
    (Field.of name optional get setOther decode).IsApart set := by
  intro value built
  refine ⟨congrArg Option.isSome (unseen value built), fun draft => ?_⟩
  rcases found : decode draft with fault | other
  · simp [Field.of, found, bind, Except.bind, Functor.map, Except.map]
  · simp [Field.of, found, bind, Except.bind, Functor.map, Except.map, pure, Except.pure, commutes]

variable {fields : List (Field σ)} {position : Nat} {name : String} {optional : Bool}
variable {get : σ → Option α} {set : α → σ → σ} {decode : Decoder α}

/-- A field is the one of a record at some position, apart from all others. -/
structure IsFieldAt (fields : List (Field σ)) (position : Nat) (name : String) (optional : Bool)
    (get : σ → Option α) (set : α → σ → σ) (decode : Decoder α) : Prop where
  here : fields[position]? = some (.of name optional get set decode)
  distinct : (fields.map (·.name)).Nodup
  isSome_get : ∀ value built, (get (set value built)).isSome
  apart : ∀ field ∈ fields, field.name ≠ name → field.IsApart set

theorem isFieldAt_of_eraseIdx (here : fields[position]? = some (.of name optional get set decode))
    (distinct : (fields.map (·.name)).Nodup)
    (isSome_get : ∀ value built, (get (set value built)).isSome)
    (apart : ∀ field ∈ fields.eraseIdx position, field.IsApart set) :
    IsFieldAt fields position name optional get set decode := by
  refine ⟨here, distinct, isSome_get, ?_⟩
  intro field member other
  apply apart
  rcases List.mem_iff_getElem?.mp member with ⟨index, listed⟩
  refine List.mem_eraseIdx_iff_getElem?.mpr ⟨index, ?_, listed⟩
  rintro rfl
  cases here.symm.trans listed
  exact other rfl

/-- Where a field stands in the draft of its record: it is named, or it has its position. -/
inductive FieldPlace (position : Nat) where
  | named (before after : List (Option String × Draft))
  | ordered (before after : List Draft) (inPosition : before.length = position)

/-- The draft of a record with the draft of one field in its place. -/
def FieldPlace.fill (depth : Nat) (name : String) : FieldPlace position → Draft → Draft
  | .named before after, draft => .object depth (before ++ (some name, draft) :: after)
  | .ordered before after _, draft => .array depth (before ++ draft :: after)

namespace IsFieldAt

variable (isField : IsFieldAt fields position name optional get set decode)

include isField

theorem mem : .of name optional get set decode ∈ fields :=
  List.mem_of_getElem? isField.here

theorem eq_of_name_eq {field : Field σ} (member : field ∈ fields) (same : field.name = name) :
    field = .of name optional get set decode :=
  List.inj_on_of_nodup_map isField.distinct member isField.mem same

theorem find?_eq : fields.find? (·.name == name) = some (.of name optional get set decode) := by
  rcases found : fields.find? (·.name == name) with _ | field
  · have missed := List.find?_eq_none.mp found _ isField.mem
    simp [Field.of] at missed
  · have same : field.name = name := by simpa using List.find?_some found
    exact found.trans
      (congrArg some (isField.eq_of_name_eq (List.mem_of_find?_eq_some found) same))

theorem readField_eq (built : σ) (draft : Draft) :
    Decoder.readField fields built (some name, draft) =
      if (get built).isSome then .error .malformed
      else decode draft >>= fun value => .ok (set value built) := by
  simp only [Decoder.readField, Decoder.require, isField.find?_eq, bind, Except.bind]
  rfl

/-- What is read behind the field does not depend on what the field holds, and a second field of its
name is a fault. -/
theorem exists_readField (built : σ) (entry : Option String × Draft) :
    ∃ after : Except Fault σ, ∀ value,
      Decoder.readField fields (set value built) entry = set value <$> after := by
  rcases entry with ⟨_ | other, draft⟩
  · exact ⟨.error .malformed, fun value => rfl⟩
  rcases found : fields.find? (·.name == other) with _ | field
  · simp only [Decoder.readField, Decoder.require, found, bind, Except.bind]
    split
    · exact ⟨.ok built, fun value => rfl⟩
    · exact ⟨.error .malformed, fun value => rfl⟩
  simp only [Decoder.readField, Decoder.require, found, bind, Except.bind]
  by_cases same : field.name = name
  · refine ⟨.error .malformed, fun value => ?_⟩
    rw [isField.eq_of_name_eq (List.mem_of_find?_eq_some found) same]
    exact if_pos (isField.isSome_get value built)
  · have apart := isField.apart field (List.mem_of_find?_eq_some found) same
    simp only [(apart _ built).1, (apart _ built).2]
    split
    · exact ⟨.error .malformed, fun value => rfl⟩
    · exact ⟨field.read draft built, fun value => rfl⟩

theorem exists_foldlM_readField (built : σ) (entries : List (Option String × Draft)) :
    ∃ after : Except Fault σ, ∀ value,
      entries.foldlM (Decoder.readField fields) (set value built) = set value <$> after := by
  induction entries generalizing built with
  | nil => exact ⟨.ok built, fun value => rfl⟩
  | cons entry entries ih =>
      rcases isField.exists_readField built entry with ⟨fault | next, reads⟩
      · refine ⟨.error fault, fun value => ?_⟩
        rw [List.foldlM_cons, reads]
        rfl
      · rcases ih next with ⟨after, later⟩
        refine ⟨after, fun value => ?_⟩
        rw [List.foldlM_cons, reads]
        exact later value

end IsFieldAt

/-- Items in order are read alike whatever a field apart from them holds. -/
theorem readInOrder_set (apart : ∀ field ∈ fields, field.IsApart set) (items : List Draft)
    (value : α) (built : σ) :
    Decoder.readInOrder fields items (set value built) =
      set value <$> Decoder.readInOrder fields items built := by
  induction fields generalizing items built with
  | nil => cases items <;> rfl
  | cons field fields ih =>
      rcases List.forall_mem_cons.mp apart with ⟨first, others⟩
      rcases items with _ | ⟨item, items⟩
      · rw [Decoder.readInOrder, Decoder.readInOrder]
        split
        · exact ih others [] built
        · rfl
      · rw [Decoder.readInOrder, Decoder.readInOrder, (first value built).2 item]
        rcases field.read item built with fault | next
        · rfl
        · exact ih others items next

theorem readInOrder_append {earlier later : List (Field σ)} {field : Field σ}
    {before after : List Draft} {draft : Draft} (lengths : before.length = earlier.length)
    (built : σ) :
    Decoder.readInOrder (earlier ++ field :: later) (before ++ draft :: after) built =
      Decoder.readInOrder earlier before built >>= fun next =>
        field.read draft next >>= Decoder.readInOrder later after := by
  induction earlier generalizing before built with
  | nil =>
      rw [List.length_eq_zero_iff.mp lengths]
      rfl
  | cons first earlier ih =>
      rcases before with _ | ⟨item, before⟩
      · cases lengths
      · simp only [List.cons_append, Decoder.readInOrder, bind_assoc]
        congr 1
        funext next
        exact ih (Nat.succ.inj lengths) next

/-- Whatever has been read behind a field, the record is built around it. -/
theorem readsInPlace_of_after {whole : Decoder γ} {fill : Draft → Draft} {build : σ → Option γ}
    {IsWay : (α → γ) → Prop} (after : Except Fault σ)
    (builds : ∀ built, (∀ value, build (set value built) = none) ∨
      ∃ put, IsWay put ∧ ∀ value, build (set value built) = some (put value))
    (reads : ∀ draft, whole (fill draft) = decode draft >>= fun value =>
      set value <$> after >>= fun built => Decoder.require (build built)) :
    Decoder.ReadsInPlace whole fill decode IsWay := by
  rcases after with fault | built
  · exact Decoder.readsInPlace_of_fault_behind fault reads
  rcases builds built with incomplete | ⟨put, way, complete⟩
  · refine Decoder.readsInPlace_of_fault_behind .malformed fun draft => ?_
    rw [reads]
    congr 1
    funext value
    simp [incomplete, Decoder.require, Functor.map, Except.map, bind, Except.bind]
  · refine Decoder.readsInPlace_of_way way fun draft => ?_
    rw [reads]
    congr 1
    funext value
    simp [complete, Decoder.require, Functor.map, Except.map, bind, Except.bind]

section Forms

variable {blank : σ} {build : σ → Option γ} {depth : Nat} {IsWay : (α → γ) → Prop}

/-- A named field is read in place. A second field of its name, behind it or before it, is a fault
whatever the two hold. -/
theorem IsFieldAt.readsInPlace_named
    (isField : IsFieldAt fields position name optional get set decode)
    (shallow : depth ≤ depthLimit) (before after : List (Option String × Draft))
    (builds : ∀ built, (∀ value, build (set value built) = none) ∨
      ∃ put, IsWay put ∧ ∀ value, build (set value built) = some (put value)) :
    Decoder.ReadsInPlace (Decoder.record fields blank build)
      (fun draft => .object depth (before ++ (some name, draft) :: after)) decode IsWay := by
  have record : ∀ draft, Decoder.record fields blank build
      (.object depth (before ++ (some name, draft) :: after)) =
        before.foldlM (Decoder.readField fields) blank >>= fun built =>
          Decoder.readField fields built (some name, draft) >>= fun next =>
            after.foldlM (Decoder.readField fields) next >>= fun built =>
              Decoder.require (build built) := by
    intro draft
    simp only [Decoder.record, if_neg (Nat.not_lt.mpr shallow), List.foldlM_append,
      List.foldlM_cons, bind_assoc]
  rcases found : before.foldlM (Decoder.readField fields) blank with fault | built
  · refine Decoder.readsInPlace_of_fault_before fault fun draft => ?_
    rw [record, found]
    rfl
  have next : ∀ draft, Decoder.record fields blank build
      (.object depth (before ++ (some name, draft) :: after)) =
        Decoder.readField fields built (some name, draft) >>= fun next =>
          after.foldlM (Decoder.readField fields) next >>= fun built =>
            Decoder.require (build built) := by
    intro draft
    rw [record, found]
    rfl
  by_cases repeated : (get built).isSome
  · refine Decoder.readsInPlace_of_fault_before .malformed fun draft => ?_
    rw [next, isField.readField_eq, if_pos repeated]
    rfl
  · rcases isField.exists_foldlM_readField built after with ⟨later, reads⟩
    refine readsInPlace_of_after later builds fun draft => ?_
    rw [next, isField.readField_eq, if_neg repeated, bind_assoc]
    simp only [← reads]
    rfl

theorem IsFieldAt.readsInPlace_ordered
    (isField : IsFieldAt fields position name optional get set decode)
    (shallow : depth ≤ depthLimit) (before after : List Draft)
    (inPosition : before.length = position)
    (builds : ∀ built, (∀ value, build (set value built) = none) ∨
      ∃ put, IsWay put ∧ ∀ value, build (set value built) = some (put value)) :
    Decoder.ReadsInPlace (Decoder.record fields blank build)
      (fun draft => .array depth (before ++ draft :: after)) decode IsWay := by
  rcases List.getElem?_eq_some_iff.mp isField.here with ⟨bound, here⟩
  have split : fields = fields.take position ++
      .of name optional get set decode :: fields.drop (position + 1) := by
    rw [← here, List.getElem_cons_drop, List.take_append_drop]
  have lengths : before.length = (fields.take position).length := by
    rw [inPosition, List.length_take_of_le (Nat.le_of_lt bound)]
  -- Names are distinct, so no field that follows is the field itself.
  have apart : ∀ field ∈ fields.drop (position + 1), field.IsApart set := by
    intro field later
    refine isField.apart field (List.mem_of_mem_drop later) fun same => ?_
    have distinct := isField.distinct
    rw [split, List.map_append, List.map_cons, List.nodup_append, List.nodup_cons] at distinct
    exact distinct.2.1.1 (List.mem_map.mpr ⟨field, later, same⟩)
  have record : ∀ draft, Decoder.record fields blank build
      (.array depth (before ++ draft :: after)) =
        Decoder.readInOrder (fields.take position) before blank >>= fun built =>
          decode draft >>= fun value =>
            set value <$> Decoder.readInOrder (fields.drop (position + 1)) after built >>=
              fun built => Decoder.require (build built) := by
    intro draft
    have inOrder : Decoder.readInOrder fields (before ++ draft :: after) blank = _ :=
      (congrArg (Decoder.readInOrder · _ blank) split).trans (readInOrder_append lengths blank)
    simp only [Decoder.record, if_neg (Nat.not_lt.mpr shallow), inOrder, Field.of, bind_assoc,
      pure_bind, readInOrder_set apart]
  rcases found : Decoder.readInOrder (fields.take position) before blank with fault | built
  · refine Decoder.readsInPlace_of_fault_before fault fun draft => ?_
    rw [record, found]
    rfl
  · refine readsInPlace_of_after
      (Decoder.readInOrder (fields.drop (position + 1)) after built) builds fun draft => ?_
    rw [record, found]
    rfl

theorem IsFieldAt.readsInPlace (isField : IsFieldAt fields position name optional get set decode)
    (shallow : depth ≤ depthLimit) (place : FieldPlace position)
    (builds : ∀ built, (∀ value, build (set value built) = none) ∨
      ∃ put, IsWay put ∧ ∀ value, build (set value built) = some (put value)) :
    Decoder.ReadsInPlace (Decoder.record fields blank build) (place.fill depth name) decode
      IsWay := by
  cases place with
  | named before after => exact isField.readsInPlace_named shallow before after builds
  | ordered before after inPosition =>
      exact isField.readsInPlace_ordered shallow before after inPosition builds

end Forms

end Record

end MotifVote.Json
