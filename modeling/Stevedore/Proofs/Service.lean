import Stevedore.Service.Json
import Stevedore.Proofs.Json.Repeats
/-!
# Services read from JSON

A service may be written in many ways, and so may its links, ports, variables, volumes and its
replication: as an object with the members in any order, without those that have their default and
beside members that mean nothing, or as the list of the values of its first fields. All of these are
read as the service, and one of them is what is written of it. A text in which a member is repeated is
refused.

Main definitions: for each type of `Stevedore.Service` its `fields` and its `form`.

Main results:

- Theorem `Service.decode_spelling`: every text of a service is decoded as the service.
-/

namespace Stevedore

open Json (Gap MemberText RecordField Form keys Follows Written Reads follows_string written_string
  written_exactly)

/-! ## Integers -/

/-- A number of 16 bits is read back from what is written of it. -/
theorem Json.reads_ofUInt16 (n : UInt16) : Reads readUInt16 (bytes (ofUInt16 n)) n := by
  have hread := reads_uint16 (Nat.le_of_lt_succ n.toNat_lt)
  rwa [UInt16.ofNat_toNat] at hread

/-- Port numbers are read in the one way in which they are written. -/
theorem follows_port : Follows Json.readUInt16 (.exactly Json.ofUInt16) :=
  Json.follows_exactly Json.exact_readUInt16 Json.reads_ofUInt16

/-- Counts are read in the one way in which they are written. -/
theorem follows_count : Follows Json.readInt32 (.exactly Json.ofInt32) :=
  Json.follows_exactly Json.exact_readInt32 Json.reads_int32

namespace Link

/-- The members of a link. -/
@[simp]
def fields : List (RecordField Link) :=
  [⟨"name", Link.target, .string⟩, ⟨"alias", Link.aliasName, .string⟩]

/-- The texts of links. -/
def form : Form Link := .record {} fields

/-- Links are read by their fields. -/
theorem describes : record.Describes fields where
  members := .cons (.optional follows_string) (.cons (.optional follows_string) .nil)

/-- What is written of a link is one of its texts. -/
theorem written : Written form toJson :=
  Json.written_record (by decide) fun _ =>
    .cons (RecordField.entry_always written_string) <|
    .cons (RecordField.entry_always written_string) .nil

end Link

namespace Port

/-- The members of a port. -/
@[simp]
def fields : List (RecordField Port) :=
  [⟨"hostPort", Port.host, .exactly Json.ofUInt16⟩,
    ⟨"containerPort", Port.container, .exactly Json.ofUInt16⟩,
    ⟨"protocol", Port.protocol, .string⟩]

/-- The texts of ports. -/
def form : Form Port := .record {} fields

/-- Ports are read by their fields. -/
theorem describes : record.Describes fields where
  members :=
    .cons (.optional follows_port) <|
    .cons (.optional follows_port) <|
    .cons (.optional follows_string) .nil

/-- What is written of a port is one of its texts. -/
theorem written : Written form toJson :=
  Json.written_record (by decide) fun _ =>
    .cons (RecordField.entry_omitIf (written_exactly _) (by simp)) <|
    .cons (RecordField.entry_always (written_exactly _)) <|
    .cons (RecordField.entry_omitEmpty rfl) .nil

/-- A port of the host is left out when it is 0, and so is an empty protocol. -/
theorem member?_toJson (p : Port) : ∀ f ∈ fields,
    p.toJson.member? f.key = none ↔ f.key ≠ "containerPort" ∧ f.get p = f.get {} := by
  simp [toJson, Json.member?_ofMembers_eq_none_iff, Json.always, Json.omitIf, Json.omitEmpty]

end Port

namespace EnvVariable

/-- The members of a variable. -/
@[simp]
def fields : List (RecordField EnvVariable) :=
  [⟨"variable", EnvVariable.name, .string⟩, ⟨"value", EnvVariable.value, .string⟩]

/-- The texts of variables. -/
def form : Form EnvVariable := .record {} fields

/-- Variables are read by their fields. -/
theorem describes : record.Describes fields where
  members := .cons (.optional follows_string) (.cons (.optional follows_string) .nil)

/-- What is written of a variable is one of its texts. -/
theorem written : Written form toJson :=
  Json.written_record (by decide) fun _ =>
    .cons (RecordField.entry_always written_string) <|
    .cons (RecordField.entry_always written_string) .nil

end EnvVariable

namespace Volume

/-- The members of a volume. -/
@[simp]
def fields : List (RecordField Volume) :=
  [⟨"hostPath", Volume.host, .string⟩, ⟨"containerPath", Volume.container, .string⟩]

/-- The texts of volumes. -/
def form : Form Volume := .record {} fields

/-- Volumes are read by their fields. -/
theorem describes : record.Describes fields where
  members := .cons (.optional follows_string) (.cons (.optional follows_string) .nil)

/-- What is written of a volume is one of its texts. -/
theorem written : Written form toJson :=
  Json.written_record (by decide) fun _ =>
    .cons (RecordField.entry_always written_string) <|
    .cons (RecordField.entry_always written_string) .nil

end Volume

namespace VolumeSource

/-- The member of a source of volumes. -/
@[simp]
def fields : List (RecordField VolumeSource) := [⟨"name", VolumeSource.name, .string⟩]

/-- The texts of sources of volumes. -/
def form : Form VolumeSource := .record {} fields

/-- Sources of volumes are read by their field. -/
theorem describes : record.Describes fields where
  members := .cons (.optional follows_string) .nil

/-- What is written of a source of volumes is one of its texts. -/
theorem written : Written form toJson :=
  Json.written_record (by decide) fun _ => .cons (RecordField.entry_always written_string) .nil

end VolumeSource

namespace Replication

/-- The member of a replication. -/
@[simp]
def fields : List (RecordField Replication) := [⟨"count", Replication.count, .exactly Json.ofInt32⟩]

/-- The texts of replications. -/
def form : Form Replication := .record {} fields

/-- Replications are read by their field. -/
theorem describes : record.Describes fields where
  members := .cons (.optional follows_count) .nil

/-- What is written of a replication is one of its texts. -/
theorem written : Written form toJson :=
  Json.written_record (by decide) fun _ => .cons (RecordField.entry_always (written_exactly _)) .nil

end Replication

namespace Service

/-- The members of a service. -/
@[simp]
def fields : List (RecordField Service) :=
  [⟨"name", Service.name, .string⟩,
    ⟨"source", Service.source, .string⟩,
    ⟨"command", Service.command, .string⟩,
    ⟨"links", Service.links, Link.form.list⟩,
    ⟨"ports", Service.ports, Port.form.list⟩,
    ⟨"expose", Service.expose, (Form.exactly Json.ofUInt16).list⟩,
    ⟨"environment", Service.environment, EnvVariable.form.list⟩,
    ⟨"volumes", Service.volumes, Volume.form.list⟩,
    ⟨"volumes_from", Service.volumesFrom, VolumeSource.form.list⟩,
    ⟨"deployment", Service.replication, Replication.form⟩]

/-- The texts of services. -/
def form : Form Service := .record {} fields

/-- Services are read by their fields. -/
theorem describes : record.Describes fields where
  members :=
    .cons (.optional follows_string) <|
    .cons (.optional follows_string) <|
    .cons (.optional follows_string) <|
    .cons (.optional Link.describes.follows.list) <|
    .cons (.optional Port.describes.follows.list) <|
    .cons (.optional follows_port.list) <|
    .cons (.optional EnvVariable.describes.follows.list) <|
    .cons (.optional Volume.describes.follows.list) <|
    .cons (.optional VolumeSource.describes.follows.list) <|
    .cons (.optional Replication.describes.follows) .nil

/-- What is written of a service is one of its texts. -/
theorem written : Written form toJson :=
  Json.written_record (by decide) fun _ =>
    .cons (RecordField.entry_omitEmpty rfl) <|
    .cons (RecordField.entry_omitEmpty rfl) <|
    .cons (RecordField.entry_omitEmpty rfl) <|
    .cons (RecordField.entry_omitNil Link.written rfl) <|
    .cons (RecordField.entry_omitNil Port.written rfl) <|
    .cons (RecordField.entry_omitNil (written_exactly _) rfl) <|
    .cons (RecordField.entry_omitNil EnvVariable.written rfl) <|
    .cons (RecordField.entry_omitNil Volume.written rfl) <|
    .cons (RecordField.entry_omitNil VolumeSource.written rfl) <|
    .cons (RecordField.entry_always Replication.written) .nil

/-- Empty strings and empty lists are left out. -/
theorem member?_toJson (s : Service) : ∀ f ∈ fields,
    s.toJson.member? f.key = none ↔ f.key ≠ "deployment" ∧ f.get s = f.get {} := by
  simp [toJson, Json.member?_ofMembers_eq_none_iff, Json.always, Json.omitIf, Json.omitEmpty,
    Json.omitNil]

/-! ## A cache in other words -/

/-- A service with one port. -/
def cache : Service :=
  { source := "redis", ports := [{ container := 6379 }], replication := ⟨1⟩ }

/-- Members that say it: beside one that means nothing, with an escape in a key and with a port that is
the list of its first fields. -/
def cacheMembers : List (String × MemberText) := [
  ("extra", { key := Json.literalBytes "extra", value := { text := Json.listText {} [] } }),
  ("source", {
    key := 0x5C :: 0x75 :: ([0x30, 0x30, 0x37, 0x33] ++ Json.literalBytes "ource"),
    value := {
      before := ⟨[0x20], by simp [Json.Cursor.IsBlank]⟩
      text := Json.bytes (.string "redis") } }),
  ("ports", {
    key := Json.literalBytes "ports",
    value := { text := Json.listText {} [{ text := Json.listText {} [
      { text := Json.bytes (.ofUInt16 0) }, { text := Json.bytes (.ofUInt16 6379) }] }] } }),
  ("deployment", {
    key := Json.literalBytes "deployment",
    value := { text := Json.bytes (Replication.toJson ⟨1⟩) } })]

/-- A text with an unknown member, an escape, a list for a port and the members in another order is
one of the texts of this service. -/
theorem spells_cache : form.Spells cache (Json.objectText {} (cacheMembers.map (·.2))) := by
  have hkey : Json.Writes "source".toList
      (0x5C :: 0x75 :: ([0x30, 0x30, 0x37, 0x33] ++ Json.literalBytes "ource")) :=
    .code (@Json.CodeUnit.mk 0x30 0x30 0x37 0x33 0 0 7 3 rfl rfl rfl rfl)
      (Json.writes_literalBytes "ource")
  have hport : Port.form.Spells { container := 6379 } (Json.listText {} [
      { text := Json.bytes (.ofUInt16 0) }, { text := Json.bytes (.ofUInt16 6379) }]) :=
    .list {} (List.take_append_drop 2 Port.fields).symm (.cons rfl (.cons rfl .nil))
      (by simp)
  refine .object {} ?_ ?_ ?_ ?_
  · simp only [cacheMembers, List.forall_mem_cons]
    exact ⟨Json.writes_literalBytes "extra", hkey, Json.writes_literalBytes "ports",
      Json.writes_literalBytes "deployment", by simp⟩
  · simp only [cacheMembers, List.forall_mem_cons]
    refine ⟨.other (by decide) (.list {} (by simp)),
      .field (f := fields[1]) (List.getElem_mem _) (written_string "redis"),
      .field (f := fields[4]) (List.getElem_mem _) ⟨{}, _, rfl, .cons hport .nil⟩,
      .field (f := fields[9]) (List.getElem_mem _) (Replication.written ⟨1⟩), by simp⟩
  · simp [cacheMembers, keys]
  · simp [cacheMembers, cache]

/-- A service has one name. -/
theorem repeats_name : form.Repeats (Json.objectText {} [
    { key := Json.literalBytes "name", value := { text := Json.bytes (.string "a") } },
    { key := Json.literalBytes "name", value := { text := Json.bytes (.string "b") } }]) := by
  have hkey := Json.writes_literalBytes "name"
  refine .member {} ?_ (by decide) (.refl _) hkey hkey
  have htext (s : String) : Json.ValueText (Json.bytes (.string s)) := by
    rw [Json.bytes_string]
    exact .string (Json.writes_literalBytes s).literalText
  simp [Json.MembersText, hkey.literalText, htext]

/-! ## Whole texts -/

/-- Every text of a service is decoded as the service, and a text that repeats a member is refused. What
is written of a service is one of its texts, without what is empty and without ports of the host that
are 0. -/
theorem decode_spelling (s : Service) :
    (∀ t, form.Spells s t → ∀ before after : Gap,
      Json.decode record.read (.ofBytes (before.bytes ++ (t ++ after.bytes))) = .ok s) ∧
    form.Spells s (Json.bytes s.toJson) ∧
    Json.decodeString record.read s.toJson.render = .ok s ∧
    (∀ f ∈ fields, s.toJson.member? f.key = none ↔ f.key ≠ "deployment" ∧ f.get s = f.get {}) ∧
    (∀ p ∈ s.ports, ∀ f ∈ Port.fields,
      p.toJson.member? f.key = none ↔ f.key ≠ "containerPort" ∧ f.get p = f.get {}) ∧
    ∀ t, form.Repeats t → ∀ before after : Gap,
      ∃ e, Json.decode record.read (.ofBytes (before.bytes ++ (t ++ after.bytes))) = .error e := by
  have hfollows : Follows record.read form := describes.follows
  exact ⟨fun t ht => hfollows.decode_of_spells ht, written s, hfollows.decode_of_written written s,
    member?_toJson s, fun p _ => Port.member?_toJson p, fun t ht => hfollows.not_decoded ht⟩

/-- A text of this service is decoded, and one that repeats a member is refused. -/
theorem decode_spelling_cache :
    Json.decodeString record.read ("\x7b\"extra\":[],\"\\u0073ource\": \"redis\"," ++
        "\"ports\":[[0,6379]],\"deployment\":\x7b\"count\":1\x7d\x7d") = .ok cache ∧
      ∃ e, Json.decodeString record.read "\x7b\"name\":\"a\",\"name\":\"b\"\x7d" = .error e := by
  obtain ⟨hspelling, -, -, -, -, hrepeats⟩ := decode_spelling cache
  have hcache := hspelling _ spells_cache {} {}
  obtain ⟨e, he⟩ := hrepeats _ repeats_name {} {}
  exact ⟨(Json.decodeString_eq (by decide +kernel)).trans hcache,
    e, (Json.decodeString_eq (by decide +kernel)).trans he⟩

end Service

end Stevedore
