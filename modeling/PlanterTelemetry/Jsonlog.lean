import PlanterTelemetry.Cli.Capture
import Mathlib.Data.Rat.Floor

open planter_telemetry.python

namespace planter_telemetry.jsonlog

/-- A key of a dict, as far as `json.dumps` tells keys apart. -/
inductive PyKey where
  | null
  | bool (value : Bool)
  | number (value : Json.Number)
  | nan
  | infinity
  | negative_infinity
  | text (value : List Char)
  | other

/-- A Python value, as far as `json.dumps` tells them apart. A container that
    contains itself has `circular` at that place; `other` is of a type that there is
    no notation for, with the text that `str` makes of it, unless `str` raises. -/
inductive PyValue where
  | null
  | bool (value : Bool)
  | number (value : Json.Number)
  | nan
  | infinity
  | negative_infinity
  | text (value : List Char)
  | list (items : List PyValue)
  | dict (members : List (PyKey × PyValue))
  | circular
  | other (str : Option (List Char))

/-- A number as Python writes it, unless it is an integer of too many digits. -/
def number_text (number : Json.Number) : Option Json.Number :=
  if MAX_STR_DIGITS < Json.integer_digits number then none else some number

/-- The text of a key. A key of any other type is a TypeError. -/
def PyKey.name : PyKey → Option (List Char)
  | .null => some "null".toList
  | .bool value => some (if value then "true".toList else "false".toList)
  | .number value => (number_text value).map Subtype.val
  | .nan => some "NaN".toList
  | .infinity => some "Infinity".toList
  | .negative_infinity => some "-Infinity".toList
  | .text value => some value
  | .other => none

mutual

/-- What `json.dumps` writes a value as, with `default=str`, and nothing where it
    raises. Containers nest only so deep. -/
def PyValue.to_json : Nat → PyValue → Option Json.Value
  | _, .null => some .null
  | _, .bool value => some (.bool value)
  | _, .number value => (number_text value).map .number
  | _, .nan => some .nan
  | _, .infinity => some .infinity
  | _, .negative_infinity => some .negative_infinity
  | _, .text value => some (.text value)
  | 0, .list _ => none
  | nesting + 1, .list items => (items_to_json nesting items).map .array
  | 0, .dict _ => none
  | nesting + 1, .dict members => (members_to_json nesting members).map .object
  | _, .circular => none
  | _, .other str => str.map .text

def items_to_json (nesting : Nat) : List PyValue → Option (List Json.Value)
  | [] => some []
  | item :: items => do
    let value ← item.to_json nesting
    let values ← items_to_json nesting items
    some (value :: values)

def members_to_json (nesting : Nat) : List (PyKey × PyValue) → Option (List (List Char × Json.Value))
  | [] => some []
  | (key, own) :: members => do
    let name ← key.name
    let value ← own.to_json nesting
    let values ← members_to_json nesting members
    some ((name, value) :: values)

end

/-- The attributes that a record has without any `extra`. -/
def RESERVED : List (List Char) :=
  ["name", "msg", "args", "levelname", "levelno", "pathname", "filename", "module", "exc_info", "exc_text",
    "stack_info", "lineno", "funcName", "created", "msecs", "relativeCreated", "thread", "threadName",
    "processName", "process", "taskName", "message", "asctime"].map String.toList

/-- A `logging.LogRecord`. -/
structure LogRecord where
  /-- Seconds since 1970. -/
  created : ℚ
  levelname : List Char
  name : List Char
  /-- `getMessage()`. -/
  message : List Char
  /-- `__dict__`. -/
  attributes : List (List Char × PyValue)
  attributes_unique : (attributes.map Prod.fst).Nodup
  /-- `formatException(exc_info)`, where there is one. -/
  exception : Option (List Char)

/-- 1970-01-01T00:00:00. -/
def EPOCH : Int := 719162 * day

/-- `datetime.fromtimestamp(timestamp, tz=UTC)`, and nothing for a ValueError. -/
def fromtimestamp (timestamp : ℚ) : Option Datetime :=
  let wall := EPOCH + round_half_even (timestamp * 1000000)
  if h : Representable wall then some { wall, utcoffset := some ⟨0, utc_offset_range⟩, wall_range := h }
  else none

/-- The dict of a line. -/
abbrev Members : Type := List (List Char × PyValue)

/-- `line[key] = value`: a key keeps its place. -/
def set_item (key : List Char) (value : PyValue) : Members → Members
  | [] => [(key, value)]
  | member :: line => if member.1 = key then (key, value) :: line else member :: set_item key value line

def standard_members (service : List Char) (record : LogRecord) (ts : Datetime) : Members :=
  [("ts".toList, .text ts.isoformat), ("level".toList, .text record.levelname),
    ("service".toList, .text service), ("logger".toList, .text record.name),
    ("event".toList, .text record.message)]

/-- The loop over the attributes. -/
def add_extra : List (List Char × PyValue) → Members → Members
  | [], line => line
  | (key, value) :: attributes, line =>
    add_extra attributes (if key ∈ RESERVED then line else set_item key value line)

def line_members (service : List Char) (record : LogRecord) (ts : Datetime) : Members :=
  let line := add_extra record.attributes (standard_members service record ts)
  match record.exception with
  | none => line
  | some text => set_item "exc".toList (.text text) line

/-- The layout that `json.dumps` has by default, in which text stays readable. -/
def readable : Json.Style where
  ensure_ascii := false
  spaced := true

/-- The members of a line as they are written. -/
def written_members (nesting : Nat) : Members → Option (List (List Char × Json.Value))
  | [] => some []
  | (key, own) :: line => do
    let value ← own.to_json nesting
    let values ← written_members nesting line
    some ((key, value) :: values)

/-- `JsonFormatter(service).format(record)`, and nothing where it raises. -/
def format (nesting : Nat) (service : List Char) (record : LogRecord) : Option (List Char) := do
  let ts ← fromtimestamp record.created
  let members ← written_members nesting (line_members service record ts)
  some (Json.write readable (.object members))

/-! ### The members of a line -/

section Members

variable {line : Members} {key other : List Char} {value : PyValue}

theorem lookup_member {α : Type} (name : List Char) (own : α) (members : List (List Char × α)) :
    ((name, own) :: members).lookup key = if key = name then some own else members.lookup key := by
  rw [List.lookup_cons]
  by_cases hkey : key = name
  · rw [hkey, if_pos rfl, beq_self_eq_true]
  · rw [if_neg hkey, beq_false_of_ne hkey]

theorem lookup_set_item (line : Members) :
    (set_item key value line).lookup other = if other = key then some value else line.lookup other := by
  induction line with
  | nil => exact lookup_member key value []
  | cons member line ih =>
    obtain ⟨name, own⟩ := member
    rw [set_item]
    by_cases hname : name = key
    · rw [if_pos hname, lookup_member, lookup_member, hname]
      split
      · rfl
      · rfl
    · rw [if_neg hname, lookup_member, lookup_member, ih]
      by_cases hother : other = name
      · rw [if_pos hother, if_neg (hother ▸ hname), if_pos hother]
      · rw [if_neg hother, if_neg hother]

theorem lookup_eq_none {α : Type} {members : List (List Char × α)} (h : key ∉ members.map Prod.fst) :
    members.lookup key = none := by
  induction members with
  | nil => rfl
  | cons member members ih =>
    obtain ⟨hname, hrest⟩ := not_or.mp fun hmem => h (List.mem_cons.mpr hmem)
    rw [lookup_member, if_neg hname, ih hrest]

theorem mem_keys_set_item {line : Members} :
    other ∈ (set_item key value line).map Prod.fst ↔ other = key ∨ other ∈ line.map Prod.fst := by
  induction line with
  | nil => simp [set_item]
  | cons member line ih =>
    rw [set_item]
    split
    · next hname => simp [hname]
    · rw [List.map_cons, List.mem_cons, ih, List.map_cons, List.mem_cons]
      tauto

theorem nodup_set_item (h : (line.map Prod.fst).Nodup) :
    ((set_item key value line).map Prod.fst).Nodup := by
  induction line with
  | nil => simp [set_item]
  | cons member line ih =>
    obtain ⟨hmember, hline⟩ := List.nodup_cons.mp h
    rw [set_item]
    split
    · next hname =>
      rw [List.map_cons, List.nodup_cons]
      exact ⟨hname ▸ hmember, hline⟩
    · next hname =>
      rw [List.map_cons, List.nodup_cons]
      refine ⟨fun hmem => ?_, ih hline⟩
      cases mem_keys_set_item.mp hmem with
      | inl hkey => exact hname hkey
      | inr hline => exact hmember hline

/-- An attribute that is not reserved is a member, whatever was there by its name. -/
theorem lookup_add_extra {attributes : List (List Char × PyValue)} (hunique : (attributes.map Prod.fst).Nodup)
    (line : Members) :
    (add_extra attributes line).lookup key =
      if key ∈ RESERVED then line.lookup key
      else (attributes.lookup key).or (line.lookup key) := by
  induction attributes generalizing line with
  | nil => simp [add_extra]
  | cons entry attributes ih =>
    obtain ⟨name, own⟩ := entry
    obtain ⟨hname, hrest⟩ := List.nodup_cons.mp hunique
    rw [add_extra, ih hrest]
    by_cases hreserved : key ∈ RESERVED
    · rw [if_pos hreserved, if_pos hreserved]
      split
      · rfl
      · next hown =>
        rw [lookup_set_item, if_neg]
        rintro rfl
        exact hown hreserved
    · rw [if_neg hreserved, if_neg hreserved, lookup_member]
      by_cases hkey : key = name
      · subst hkey
        rw [if_neg hreserved, lookup_eq_none hname, lookup_set_item, if_pos rfl, if_pos rfl]
        rfl
      · rw [if_neg hkey]
        congr 1
        split
        · rfl
        · rw [lookup_set_item, if_neg hkey]

theorem nodup_add_extra {attributes : List (List Char × PyValue)} (h : (line.map Prod.fst).Nodup) :
    ((add_extra attributes line).map Prod.fst).Nodup := by
  induction attributes generalizing line with
  | nil => exact h
  | cons entry attributes ih =>
    apply ih
    split
    · exact h
    · exact nodup_set_item h

/-- Everything that is written has the members of the line, each with its value. -/
theorem written_members_spec {nesting : Nat} {values : List (List Char × Json.Value)}
    (h : written_members nesting line = some values) :
    values.map Prod.fst = line.map Prod.fst ∧ ∀ key,
      (values.lookup key).map some = (line.lookup key).map (PyValue.to_json nesting) := by
  induction line generalizing values with
  | nil =>
    cases h
    exact ⟨rfl, fun key => rfl⟩
  | cons member line ih =>
    obtain ⟨name, own⟩ := member
    obtain ⟨value, hvalue, hrest⟩ := Option.bind_eq_some_iff.mp h
    obtain ⟨more, hmore, hcons⟩ := Option.bind_eq_some_iff.mp hrest
    cases hcons
    obtain ⟨hnames, hlookup⟩ := ih hmore
    refine ⟨by rw [List.map_cons, List.map_cons, hnames], fun key => ?_⟩
    rw [lookup_member, lookup_member]
    split
    · rw [Option.map_some, Option.map_some, hvalue]
    · exact hlookup key

end Members

theorem standard_unique (service : List Char) (record : LogRecord) (ts : Datetime) :
    ((standard_members service record ts).map Prod.fst).Nodup := by
  change ["ts".toList, "level".toList, "service".toList, "logger".toList, "event".toList].Nodup
  decide

/-! ### A log is read back -/

/-- The time of a record to the microsecond, in UTC, and its text can be read back. -/
structure Stamps (created : ℚ) (ts : Datetime) : Prop where
  reads_back : Datetime.fromisoformat ts.isoformat = some ts
  utc : ts.utcoffset = some ⟨0, utc_offset_range⟩
  close : |((ts.wall - EPOCH : Int) : ℚ) - created * 1000000| ≤ 1 / 2

theorem stamps_of_fromtimestamp {created : ℚ} {ts : Datetime} (h : fromtimestamp created = some ts) :
    Stamps created ts := by
  unfold fromtimestamp at h
  dsimp only at h
  split at h
  · cases h
    refine ⟨fromisoformat_isoformat _, rfl, ?_⟩
    dsimp only
    rw [add_sub_cancel_left, abs_sub_comm]
    exact abs_sub_round_half_even_le _
  · cases h

/-- The value that a line has for a key. Of several sources the last one counts:
    the standard members, the attributes of the record, its exception. -/
def line_value (service : List Char) (record : LogRecord) (ts : Datetime) (key : List Char) : Option PyValue :=
  ((if key = "exc".toList then record.exception.map PyValue.text else none).or
    (if key ∈ RESERVED then none else record.attributes.lookup key)).or
      ((standard_members service record ts).lookup key)

/-- What a line tells its reader: each value by its key, once. -/
structure Says (nesting : Nat) (service : List Char) (record : LogRecord)
    (members : List (List Char × Json.Value)) : Prop where
  unique : (members.map Prod.fst).Nodup
  lookup : ∃ ts, Stamps record.created ts ∧ ∀ key,
    (members.lookup key).map some = (line_value service record ts key).map (PyValue.to_json nesting)

theorem line_members_spec (service : List Char) (record : LogRecord) (ts : Datetime) :
    ((line_members service record ts).map Prod.fst).Nodup ∧
      ∀ key, (line_members service record ts).lookup key = line_value service record ts key := by
  have hextra : ((add_extra record.attributes (standard_members service record ts)).map Prod.fst).Nodup :=
    nodup_add_extra (standard_unique service record ts)
  have hlookup : ∀ key, (add_extra record.attributes (standard_members service record ts)).lookup key =
      (if key ∈ RESERVED then none else record.attributes.lookup key).or
        ((standard_members service record ts).lookup key) := by
    intro key
    rw [lookup_add_extra record.attributes_unique]
    split
    · rfl
    · rfl
  unfold line_members line_value
  cases hexception : record.exception with
  | none =>
    refine ⟨hextra, fun key => ?_⟩
    dsimp only
    rw [hlookup, Option.map_none, ite_self, Option.none_or]
  | some text =>
    refine ⟨nodup_set_item hextra, fun key => ?_⟩
    dsimp only
    rw [lookup_set_item, hlookup]
    split
    · rfl
    · rw [Option.none_or]

/-- What the handler writes of some records: each line with a newline. -/
def emitted (nesting : Nat) (service : List Char) (records : List LogRecord) : Option (List Char) :=
  (records.mapM (format nesting service)).map cli.written

theorem mapM_eq_some {α β : Type} {f : α → Option β} {items : List α} {results : List β}
    (h : items.mapM f = some results) : List.Forall₂ (fun item result => f item = some result) items results := by
  induction items generalizing results with
  | nil =>
    cases h
    exact .nil
  | cons item items ih =>
    rw [List.mapM_cons] at h
    obtain ⟨result, hresult, hrest⟩ := Option.bind_eq_some_iff.mp h
    obtain ⟨more, hmore, hcons⟩ := Option.bind_eq_some_iff.mp hrest
    cases hcons
    exact .cons hresult (ih hmore)

section Log

variable {nesting : Nat} {service : List Char}

/-- A line reads back as what it was written for, the newline aside. -/
theorem format_reads_back {record : LogRecord} {line : List Char} (h : format nesting service record = some line) :
    '\n' ∉ line ∧ ∃ members, Json.document (line ++ ['\n']) = some (.object members) ∧
      Says nesting service record members := by
  obtain ⟨ts, hts, hrest⟩ := Option.bind_eq_some_iff.mp h
  obtain ⟨members, hmembers, hline⟩ := Option.bind_eq_some_iff.mp hrest
  cases hline
  obtain ⟨hunique, hvalues⟩ := line_members_spec service record ts
  obtain ⟨hnames, hlookup⟩ := written_members_spec hmembers
  refine ⟨(cli.plain_of_printable (Json.write_printable readable _)).1, members, ?_, ?_, ts,
    stamps_of_fromtimestamp hts, fun key => ?_⟩
  · exact Json.document_write_space readable _ cli.newline_space
  · rw [hnames]
    exact hunique
  · rw [hlookup, hvalues]

end Log

/-- A record with a text over two lines, and with an extra by the name of a standard
    member. -/
def record_with_extra : LogRecord where
  created := 1772366400
  levelname := "WARNING".toList
  name := "planter_telemetry.ingestion".toList
  message := "reconnect".toList
  attributes := [("levelno".toList, .null), ("error".toList, .text "refused\nagain".toList),
    ("event".toList, .other (some "stop".toList)),
    ("counts".toList, .dict [(.number ⟨['7'], by decide⟩, .list [])])]
  attributes_unique := by decide
  exception := some "Traceback\n  ValueError".toList

theorem says_extra {service : List Char} {members : List (List Char × Json.Value)}
    (h : Says 2 service record_with_extra members) :
    members.lookup "error".toList = some (.text "refused\nagain".toList) ∧
      members.lookup "event".toList = some (.text "stop".toList) := by
  obtain ⟨ts, -, hlookup⟩ := h.lookup
  exact ⟨Option.map_injective (Option.some_injective _) (hlookup "error".toList),
    Option.map_injective (Option.some_injective _) (hlookup "event".toList)⟩

end planter_telemetry.jsonlog
