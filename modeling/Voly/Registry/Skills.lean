/-
The skill registry: skills by id, the ids listed under their keys, and the
candidates.
-/
import Voly.Records.Inverted
import Voly.Records.Keyed

namespace Voly.Registry

open Python

inductive SkillSource where
  | builtin | project | organization | marketplace | generated
deriving DecidableEq

def SkillSource.value : SkillSource → String
  | .builtin => "builtin"
  | .project => "project"
  | .organization => "organization"
  | .marketplace => "marketplace"
  | .generated => "generated"

/-- `SkillSource(value)`. -/
def SkillSource.of? (value : String) : Option SkillSource :=
  [.builtin, .project, .organization, .marketplace, .generated].find?
    fun source => source.value = value

inductive SkillStatus where
  | active | candidate | deprecated | archived
deriving DecidableEq

def SkillStatus.value : SkillStatus → String
  | .active => "active"
  | .candidate => "candidate"
  | .deprecated => "deprecated"
  | .archived => "archived"

/-- `SkillStatus(value)`. -/
def SkillStatus.of? (value : String) : Option SkillStatus :=
  [.active, .candidate, .deprecated, .archived].find?
    fun status => status.value = value

structure Skill where
  id : String
  name : String := ""
  description : String := ""
  source : SkillSource := .builtin
  status : SkillStatus := .active
  tags : List String := []
  capabilities : List String := []
  compatibleAgents : List String := []
  compatibleLanguages : List String := []
  compatibleFrameworks : List String := []
deriving DecidableEq

/-- What the five indexes list a skill under. -/
inductive Facet where
  | tag | capability | language | framework | agent
deriving DecidableEq

def Skill.facet (skill : Skill) : Facet → List String
  | .tag => skill.tags
  | .capability => skill.capabilities
  | .language => skill.compatibleLanguages
  | .framework => skill.compatibleFrameworks
  | .agent => skill.compatibleAgents

/-- `_skills`, and `_by_tag`, `_by_capability` and the other tables. -/
structure SkillIndex where
  skills : List Skill := []
  listed : Facet → Dict (List String) := fun _ => []

/-- The filters of a search; an empty one is not given. -/
structure SkillFilters where
  query : String := ""
  tags : List String := []
  capability : String := ""
  language : String := ""
  framework : String := ""
  agent : String := ""
  source : Option SkillSource := none

namespace SkillIndex

variable (index : SkillIndex)

def get (skillId : String) : Option Skill :=
  Keyed.lookup Skill.id skillId index.skills

def add (skill : Skill) : SkillIndex where
  skills := Keyed.put Skill.id skill index.skills
  listed facet :=
    Inverted.insertAll (index.listed facet) skill.id (skill.facet facet)

def remove (skillId : String) : SkillIndex :=
  match index.get skillId with
  | none => index
  | some skill =>
      { skills := Keyed.drop Skill.id skillId index.skills
        listed := fun facet =>
          Inverted.discardAll (index.listed facet) skillId
            (skill.facet facet) }

section Search

variable (lower : String → String)

/-- A query is found in the name, the description, a tag or a capability. -/
def queried (query : String) (skill : Skill) : Bool :=
  let q := lower query
  contains (lower skill.name) q || contains (lower skill.description) q ||
    skill.tags.any (fun tag => contains (lower tag) q) ||
    skill.capabilities.any fun cap => contains (lower cap) q

/-- `candidates &= ids`, for a filter that is given. -/
def narrow (given : Bool) (ids candidates : List String) : List String :=
  if given then candidates.filter ids.contains else candidates

/-- `candidates &= ids`, for the ids that an index lists under a given key. -/
def narrowBy (facet : Facet) (key : String) (candidates : List String) :
    List String :=
  narrow (key != "") (Inverted.ids (index.listed facet) key) candidates

def foundIds (filters : SkillFilters) : List String :=
  let candidates := index.skills.map Skill.id
  let candidates := narrow (filters.query != "")
    ((index.skills.filter (queried lower filters.query)).map Skill.id)
    candidates
  let candidates := narrow (!filters.tags.isEmpty)
    (filters.tags.flatMap (Inverted.ids (index.listed .tag))) candidates
  let candidates :=
    index.narrowBy .capability filters.capability candidates
  let candidates := index.narrowBy .language filters.language candidates
  let candidates := index.narrowBy .framework filters.framework candidates
  let candidates := index.narrowBy .agent filters.agent candidates
  match filters.source with
  | none => candidates
  | some source => candidates.filter fun skillId =>
      (index.get skillId).any fun (skill : Skill) => skill.source = source

/-- `search`; the order of a set is that of the skills here. -/
def search (filters : SkillFilters) : List Skill :=
  (index.foundIds lower filters).filterMap index.get

end Search

end SkillIndex

/-- A skill payload; what is absent is `none`. -/
structure SkillPayload where
  id : Option String := none
  name : Option String := none
  description : Option String := none
  source : Option String := none
  status : Option String := none
  tags : Option (List String) := none
  capabilities : Option (List String) := none
  compatibleAgents : Option (List String) := none
  compatibleLanguages : Option (List String) := none
  compatibleFrameworks : Option (List String) := none

def nameId (lower : String → String) (name : String) : String :=
  String.ofList ((lower name).toList.map fun c => if c = ' ' then '-' else c)

/-- `skill_from_dict`: an unknown source or status falls back, and a payload
without id and name raises. -/
def skillFromDict (lower : String → String) (data : SkillPayload) :
    Option Skill :=
  let skillId := orElse (data.id.getD "")
    (nameId lower (data.name.getD ""))
  if skillId = "" then none
  else
    some
      { id := skillId
        name := data.name.getD skillId
        description := data.description.getD ""
        source := (SkillSource.of? (data.source.getD "project")).getD .project
        status := (SkillStatus.of? (data.status.getD "active")).getD .active
        tags := data.tags.getD []
        capabilities := data.capabilities.getD []
        compatibleAgents := data.compatibleAgents.getD []
        compatibleLanguages := data.compatibleLanguages.getD []
        compatibleFrameworks := data.compatibleFrameworks.getD [] }

structure SkillRegistry where
  index : SkillIndex := {}
  candidates : List Skill := []

namespace SkillRegistry

variable (registry : SkillRegistry)

def register (skill : Skill) : SkillRegistry where
  index := registry.index.add skill
  candidates :=
    if skill.status = .candidate then registry.candidates ++ [skill]
    else registry.candidates

def withoutCandidate (skillId : String) : List Skill :=
  registry.candidates.filter fun skill => skill.id ≠ skillId

/-- The stored skill of an id when it is a candidate. -/
def pending (skillId : String) : Option Skill :=
  (registry.index.get skillId).filter fun skill => skill.status = .candidate

/-- The stored skill becomes active in place. -/
def approveCandidate (skillId : String) : Bool × SkillRegistry :=
  match registry.pending skillId with
  | none => (false, registry)
  | some skill =>
      (true,
        { index :=
            { registry.index with
              skills := Keyed.put Skill.id { skill with status := .active }
                registry.index.skills }
          candidates := registry.withoutCandidate skillId })

def rejectCandidate (skillId : String) : Bool × SkillRegistry :=
  match registry.pending skillId with
  | none => (false, registry)
  | some _ =>
      (true,
        { index := registry.index.remove skillId
          candidates := registry.withoutCandidate skillId })

/-- A loaded skill takes the place of the stored one. -/
def replace (skill : Skill) : SkillRegistry :=
  { registry with index := registry.index.remove skill.id }.register skill

/-- `load_from_dicts`: a payload that raises is left out. -/
def loadFromDicts (lower : String → String) (payloads : List SkillPayload) :
    SkillRegistry :=
  (payloads.filterMap (skillFromDict lower)).foldl replace registry

end SkillRegistry

end Voly.Registry
