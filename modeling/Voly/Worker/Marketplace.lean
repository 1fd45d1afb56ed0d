/-
The marketplace worker: skills as rows of a table, behind a cache of rows that
expire.
-/
import Mathlib.Data.Nat.Digits.Defs
import Voly.Python.Fields

namespace Worker.Marketplace

open Python

inductive TextColumn where
  | name | description | content | version | author | source | status
  | repository | installKind
deriving DecidableEq

inductive ListColumn where
  | tags | capabilities | requiredTools | compatibleAgents
  | compatibleLanguages | compatibleFrameworks
deriving DecidableEq

inductive NumberColumn where
  | downloads | usageCount | successRate
deriving DecidableEq

def textColumns : List TextColumn :=
  [.name, .description, .content, .version, .author, .source, .status,
    .repository, .installKind]

def listColumns : List ListColumn :=
  [.tags, .capabilities, .requiredTools, .compatibleAgents,
    .compatibleLanguages, .compatibleFrameworks]

def numberColumns : List NumberColumn := [.downloads, .usageCount, .successRate]

theorem mem_textColumns (column : TextColumn) : column ∈ textColumns := by
  cases column <;> decide

theorem mem_listColumns (column : ListColumn) : column ∈ listColumns := by
  cases column <;> decide

theorem mem_numberColumns (column : NumberColumn) :
    column ∈ numberColumns := by
  cases column <;> decide

instance : Fintype TextColumn := Fintype.ofList textColumns mem_textColumns

instance : Fintype ListColumn := Fintype.ofList listColumns mem_listColumns

instance : Fintype NumberColumn :=
  Fintype.ofList numberColumns mem_numberColumns

/-- A row of `skills`; a list stands as its JSON text. -/
structure SkillRow where
  id : String
  text : TextColumn → String
  list : ListColumn → List Char
  number : NumberColumn → Rat

/-- What a request answers with. -/
structure Skill where
  id : String
  text : TextColumn → String
  list : ListColumn → List String
  number : NumberColumn → Rat

/-- `JSON.stringify` of a list of strings. -/
def stringify (items : List String) : List Char :=
  (stringsDoc items).write false

/-- `JSON.parse(text || "[]")`. -/
def parse (text : List Char) : Option (List String) :=
  (loads (if text = [] then ['[', ']'] else text)).bind Doc.strings?

/-- `parseSkill`, which throws where a list cannot be parsed. -/
def parseSkill (row : SkillRow) : Option Skill :=
  if listColumns.all fun column => (parse (row.list column)).isSome then
    some
      { id := row.id
        text := fun column =>
          if column = .installKind then orElse (row.text column) "single"
          else row.text column
        list := fun column => (parse (row.list column)).getD []
        number := row.number }
  else none

/-- What a text column is where nothing is given for it. -/
def textDefault : TextColumn → String
  | .version => "1.0.0"
  | .source => "marketplace"
  | .status => "active"
  | .installKind => "single"
  | _ => ""

def numberStart : NumberColumn → Rat
  | .successRate => 1
  | _ => 0

/-- The fields that a body gives; what is absent is `none`. -/
structure SkillFields where
  id : Option String := none
  text : TextColumn → Option String := fun _ => none
  list : ListColumn → Option (List String) := fun _ => none
  number : NumberColumn → Option Rat := fun _ => none

/-- An item of a sync; an author that is an object is no text and may have a
name. -/
structure SyncItem extends SkillFields where
  authorName : Option String := none

/-- `n.toString(36)`. -/
def base36 (n : Nat) : String :=
  if n = 0 then "0"
  else String.ofList ((Nat.digits 36 n).reverse.map hexChar)

namespace SkillFields

variable (body : SkillFields)

/-- The id of a body, or one made from the time. -/
def postId (now : Nat) : String :=
  orElse (body.id.getD "") ("skill-" ++ base36 now)

def postName : String := (body.text .name).getD ""

def postRow (now : Nat) : SkillRow where
  id := body.postId now
  text column :=
    if column = .status then "active"
    else orElse ((body.text column).getD "") (textDefault column)
  list column := stringify ((body.list column).getD [])
  number := numberStart

end SkillFields

namespace SyncItem

variable (item : SyncItem)

def syncName : String := (item.text .name).getD (item.id.getD "")

def syncId : String := item.id.getD item.syncName

def syncRow : SkillRow where
  id := item.syncId
  text
    | .name => item.syncName
    | .author => (item.text .author).getD (item.authorName.getD "")
    | column => (item.text column).getD (textDefault column)
  list column := stringify ((item.list column).getD [])
  number := numberStart

end SyncItem

/-- A row in the cache, until a time in milliseconds. -/
structure Cached where
  row : SkillRow
  expires : Nat

structure Market where
  table : String → Option SkillRow := fun _ => none
  cache : String → Option Cached := fun _ => none

def postSets : TextColumn → Bool
  | .name | .description | .content | .version | .repository
  | .installKind => true
  | .author | .source | .status => false

def syncSets : TextColumn → Bool
  | .author => false
  | _ => true

/-- `DO UPDATE SET`: the given text columns, and every list but
`required_tools`. -/
def merge (sets : TextColumn → Bool) (old row : SkillRow) : SkillRow where
  id := old.id
  text column := if sets column then row.text column else old.text column
  list column :=
    if column = .requiredTools then old.list column else row.list column
  number := old.number

inductive SkillAnswer where
  | found (skill : Skill)
  | notFound
  | failed

def SkillAnswer.of : Option Skill → SkillAnswer
  | some skill => .found skill
  | none => .failed

namespace Market

variable (market : Market)

/-- `INSERT ... ON CONFLICT(id) DO UPDATE SET`. -/
def upsert (sets : TextColumn → Bool) (row : SkillRow) : Market :=
  { market with
    table := Function.update market.table row.id
      (some ((market.table row.id).elim row fun old => merge sets old row)) }

/-- The cached row of an id, unless it has expired. -/
def live (now : Nat) (id : String) : Option SkillRow :=
  ((market.cache id).filter fun cached => now < cached.expires).map
    Cached.row

/-- `expirationTtl: 300`. -/
def cacheTtl : Nat := 300 * 1000

def getSkill (now : Nat) (id : String) : SkillAnswer × Market :=
  match market.live now id with
  | some row => (.of (parseSkill row), market)
  | none =>
      match market.table id with
      | none => (.notFound, market)
      | some row =>
          (.of (parseSkill row),
            { market with
              cache := Function.update market.cache id
                (some ⟨row, now + cacheTtl⟩) })

/-- `POST /skills` with its deferred work; no body is invalid JSON. -/
def postSkill (now : Nat) : Option SkillFields → Market
  | none => market
  | some body =>
      if body.postName = "" then market
      else
        { market.upsert postSets (body.postRow now) with
          cache := Function.update market.cache (body.postId now) none }

/-- One item of a sync; what is no object is skipped. -/
def syncSkill : Option SyncItem → Market
  | none => market
  | some item =>
      if item.syncName = "" then market
      else market.upsert syncSets item.syncRow

def syncSkills (items : List (Option SyncItem)) : Market :=
  items.foldl syncSkill market

def deleteSkill (id : String) : Market :=
  match market.table id with
  | none => market
  | some row =>
      { table := Function.update market.table id
          (some { row with
            text := Function.update row.text .status "archived" })
        cache := Function.update market.cache id none }

end Market

end Worker.Marketplace
