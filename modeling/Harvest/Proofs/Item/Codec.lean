import Harvest.Item.Descriptor
import Harvest.Proofs.Calendar.Text
import Harvest.Proofs.Number.Word
import Mathlib.Data.Option.Basic
import Mathlib.Data.List.Basic

/-!
Items are read back from their saved form. Each member is written in a form that its own field
reads, and the fields have different names, so that no member stands in for another.
-/

namespace Harvest

namespace Json

/-- An object whose members are the declared fields is that record. -/
theorem Record.of?_object {names : List String} {members : List (String × Json)}
    (declared : members.map Prod.fst = names) (apart : names.Nodup) :
    Record.of? names (.object members) = some members := by
  have all : members.filter (fun entry => names.contains entry.1) = members := by
    rw [List.filter_eq_self]
    intro entry inside
    simpa [← declared] using ⟨entry.2, inside⟩
  rw [Record.of?, Record.ofMembers?]
  simp only [all]
  rw [if_pos (declared ▸ apart)]

section Fields

theorem asText?_text (contents : String) : asText? (.text contents) = some contents := rfl

theorem asBool?_bool (flag : Bool) : asBool? (.bool flag) = some flag := rfl

theorem asFloat?_float (number : Float) : asFloat? (.float number) = some number := rfl

theorem asInt?_toInt (number : Int64) : asInt? (.int number.toInt) = some number :=
  Word.ofInt?_toInt number

theorem asMoment?_savedText (stamp : DateTime) :
    asMoment? (.text stamp.savedText) = some stamp :=
  DateTime.ofText?_savedText stamp

theorem asTexts?_texts (contents : List String) :
    asList? asText? (.list (contents.map .text)) = some contents := by
  induction contents with
  | nil => rfl
  | cons first rest ih =>
      rw [asList?] at ih ⊢
      rw [List.map_cons, List.mapM_cons, asText?_text, ih]
      rfl

/-- What is never written as null is read back, and so is its absence. -/
theorem asNullable?_ofNullable {α : Type} {read : Json → Option α} {write : α → Json}
    (back : ∀ value, read (write value) = some value) (present : ∀ value, write value ≠ .null)
    (contents : Option α) : asNullable? read (ofNullable write contents) = some contents := by
  cases contents with
  | none => rfl
  | some value =>
      rw [ofNullable, asNullable?]
      · rw [back, Option.map_some]
      · exact present value

theorem asText?_ofNullable (contents : Option String) :
    asNullable? asText? (ofNullable .text contents) = some contents :=
  asNullable?_ofNullable asText?_text nofun contents

theorem asFloat?_ofNullable (number : Option Float) :
    asNullable? asFloat? (ofNullable .float number) = some number :=
  asNullable?_ofNullable asFloat?_float nofun number

theorem asInt?_ofNullable (number : Option Int64) :
    asNullable? asInt? (ofNullable (fun number => .int number.toInt) number) = some number :=
  asNullable?_ofNullable asInt?_toInt nofun number

theorem asMoment?_ofNullable (stamp : Option DateTime) :
    asNullable? asMoment? (ofNullable (fun stamp => .text stamp.savedText) stamp) = some stamp :=
  asNullable?_ofNullable asMoment?_savedText (by simp) stamp

end Fields

section Members

variable {α β : Type} {record : Record} {name : String} {value : Json} {read : Json → Option α}
  {contents : α} {following : α → Option β} {result : β}

/-- A required member is read, and the reading goes on. -/
theorem Record.bind_required (given : record.lookup name = some value)
    (back : read value = some contents) (rest : following contents = some result) :
    (record.required name read >>= following) = some result := by
  rw [Record.required, given, Option.bind_some, back]
  exact rest

/-- A member that might be missing is read if it is given. -/
theorem Record.bind_optional {missing : α} (given : record.lookup name = some value)
    (back : read value = some contents) (rest : following contents = some result) :
    (record.optional name missing read >>= following) = some result := by
  have found : record.optional name missing read = some contents := by
    rw [Record.optional, given]
    exact back
  rw [found]
  exact rest

end Members

end Json

open Json.Record (bind_required bind_optional)

theorem Post.decode?_encode (post : Post) : decode? post.encode = some post := by
  have record : Json.Record.of? fieldNames post.encode = some post.fields :=
    Json.Record.of?_object rfl (by decide)
  rw [decode?, record, Option.bind_eq_bind, Option.bind_some]
  refine bind_required rfl (Json.asText?_text _) ?_
  refine bind_optional rfl (Json.asInt?_toInt _) ?_
  refine bind_required rfl (Json.asText?_text _) ?_
  refine bind_optional rfl (Json.asInt?_ofNullable _) ?_
  refine bind_required rfl (Json.asMoment?_savedText _) ?_
  refine bind_optional rfl (Json.asMoment?_ofNullable _) ?_
  refine bind_optional rfl (Json.asText?_text _) ?_
  refine bind_optional rfl (Json.asInt?_toInt _) ?_
  refine bind_optional rfl (Json.asText?_ofNullable _) ?_
  refine bind_optional rfl (Json.asTexts?_texts _) ?_
  refine bind_optional rfl (Json.asBool?_bool _) ?_
  refine bind_optional rfl (Json.asInt?_ofNullable _) ?_
  refine bind_optional rfl (Json.asFloat?_ofNullable _) ?_
  refine bind_optional rfl (Json.asBool?_bool _) ?_
  refine bind_optional rfl (Json.asInt?_toInt _) ?_
  refine bind_optional rfl (Json.asInt?_toInt _) ?_
  refine bind_optional rfl (Json.asBool?_bool _) ?_
  exact bind_optional rfl (Json.asText?_ofNullable _) rfl

theorem StoryItem.decode?_encode (item : StoryItem) : decode? item.encode = some item := by
  have record : Json.Record.of? fieldNames item.encode = some item.fields :=
    Json.Record.of?_object rfl (by decide)
  rw [decode?, record, Option.bind_eq_bind, Option.bind_some]
  refine bind_required rfl (Json.asInt?_toInt _) ?_
  refine bind_optional rfl (Json.asText?_ofNullable _) ?_
  refine bind_required rfl (Json.asText?_text _) ?_
  refine bind_optional rfl (Json.asInt?_ofNullable _) ?_
  refine bind_required rfl (Json.asMoment?_savedText _) ?_
  refine bind_optional rfl (Json.asMoment?_ofNullable _) ?_
  refine bind_optional rfl (Json.asMoment?_ofNullable _) ?_
  refine bind_optional rfl (Json.asText?_text _) ?_
  exact bind_optional rfl (Json.asBool?_bool _) rfl

theorem Profile.decode?_encode (profile : Profile) : decode? profile.encode = some profile := by
  have record : Json.Record.of? fieldNames profile.encode = some profile.fields :=
    Json.Record.of?_object rfl (by decide)
  rw [decode?, record, Option.bind_eq_bind, Option.bind_some]
  refine bind_required rfl (Json.asText?_text _) ?_
  refine bind_optional rfl (Json.asInt?_ofNullable _) ?_
  refine bind_optional rfl (Json.asText?_ofNullable _) ?_
  refine bind_optional rfl (Json.asText?_ofNullable _) ?_
  refine bind_optional rfl (Json.asInt?_toInt _) ?_
  refine bind_optional rfl (Json.asInt?_toInt _) ?_
  refine bind_optional rfl (Json.asInt?_toInt _) ?_
  refine bind_optional rfl (Json.asBool?_bool _) ?_
  exact bind_optional rfl (Json.asBool?_bool _) rfl

namespace Descriptor

variable {item : Descriptor} {document : Json}

theorem decode?_post (node : Json) :
    decode? ItemKind.post.name node = (Post.decode? node).map .post := by
  rw [decode?, if_pos rfl]

theorem decode?_storyItem (node : Json) :
    decode? ItemKind.storyItem.name node = (StoryItem.decode? node).map .storyItem := by
  rw [decode?, if_neg (by decide), if_pos rfl]

theorem decode?_profile (node : Json) :
    decode? ItemKind.profile.name node = (Profile.decode? node).map .profile := by
  rw [decode?, if_neg (by decide), if_neg (by decide), if_pos rfl]

/-- The saved form of an item is read back as that item, whatever the item is. -/
theorem decode?_of_encode? (saved : item.encode? = some document) :
    decode? item.typeName document = some item := by
  cases item with
  | post post =>
      cases saved
      rw [typeName, decode?_post, post.decode?_encode, Option.map_some]
  | storyItem story =>
      cases saved
      rw [typeName, decode?_storyItem, story.decode?_encode, Option.map_some]
  | profile profile =>
      cases saved
      rw [typeName, decode?_profile, profile.decode?_encode, Option.map_some]
  | other nodeType => contradiction

/-- No member of an item is named like the target that it is sent with. -/
theorem target_notMem {members : List (String × Json)}
    (saved : item.encode? = some (.object members)) : "target" ∉ members.map Prod.fst := by
  cases item with
  | post post =>
      cases saved
      exact (by decide : "target" ∉ Post.fieldNames)
  | storyItem story =>
      cases saved
      exact (by decide : "target" ∉ StoryItem.fieldNames)
  | profile profile =>
      cases saved
      exact (by decide : "target" ∉ Profile.fieldNames)
  | other nodeType => contradiction

/-- What is decoded for a kind of item is an item of that kind. -/
theorem typeName_of_decode? {kind : ItemKind} {node : Json}
    (decoded : decode? kind.name node = some item) :
    item.typeName = kind.name ∧ ∃ document, item.encode? = some document := by
  cases kind with
  | post =>
      rw [decode?_post] at decoded
      obtain ⟨post, -, rfl⟩ := Option.map_eq_some_iff.1 decoded
      exact ⟨rfl, _, rfl⟩
  | storyItem =>
      rw [decode?_storyItem] at decoded
      obtain ⟨story, -, rfl⟩ := Option.map_eq_some_iff.1 decoded
      exact ⟨rfl, _, rfl⟩
  | profile =>
      rw [decode?_profile] at decoded
      obtain ⟨profile, -, rfl⟩ := Option.map_eq_some_iff.1 decoded
      exact ⟨rfl, _, rfl⟩

end Descriptor

end Harvest
