import Provisioning.Server.Service

/-!
# What a registry holds

Checks, infos and updates look for objects of three kinds with a lookup of their own each. All nine
are one: an object of a kind is held under the key of its name, and whether it exists, who sponsors
it and what is told of it are read off the object that is held (`Registry.object?`). A registry that
comes from a seed holds, for every kind and every key, the last object of the seed that has the key
(`object?_ofSeed`); a seed may well list several of them.
-/

namespace Provisioning

/-- The key of a name: in upper case for domains and hosts, as it is for contacts. -/
def ObjectKind.key (k : ObjectKind) (name : String) : String :=
  match k with
  | .domain => Registry.nameKey name
  | .host => Registry.nameKey name
  | .contact => name

/-- An object of any kind. -/
inductive ObjectRecord where
  | domain (r : DomainRecord)
  | host (r : HostRecord)
  | contact (r : ContactRecord)
  deriving DecidableEq

namespace ObjectRecord

/-- What the object is called. -/
def name : ObjectRecord → String
  | .domain r => r.name
  | .host r => r.name
  | .contact r => r.id

/-- The registrar that the object belongs to. -/
def sponsor : ObjectRecord → String
  | .domain r => r.history.sponsor
  | .host r => r.history.sponsor
  | .contact r => r.history.sponsor

/-- What is told of the object: of a domain the hosts that are wanted, and passwords only to the
sponsor. -/
def data (o : ObjectRecord) (filter : HostsFilter) (own : Bool) : ResultData :=
  match o with
  | .domain r => { domainInfo := some (r.data filter own) }
  | .host r => { hostInfo := some r.data }
  | .contact r => { contactInfo := some (r.data own) }

end ObjectRecord

namespace Seed

/-- The objects of a kind, in the order in which they are listed. -/
def objects (s : Seed) : ObjectKind → List ObjectRecord
  | .domain => s.domains.map .domain
  | .host => s.hosts.map .host
  | .contact => s.contacts.map .contact

/-- Of the objects of a kind that have the key of the name, the one that is listed last. -/
def last? (s : Seed) (k : ObjectKind) (name : String) : Option ObjectRecord :=
  ((s.objects k).filter fun o => k.key o.name == k.key name).getLast?

/-- There is a last object with the key exactly if there is any. -/
theorem last?_isSome_iff {s : Seed} {k : ObjectKind} {name : String} :
    (s.last? k name).isSome = true ↔ ∃ o ∈ s.objects k, k.key o.name = k.key name := by
  rw [last?, List.getLast?_isSome, Ne, List.filter_eq_nil_iff]
  simp

end Seed

namespace Registry

/-- The object of the kind that is held under the name. -/
def object? (r : Registry) (k : ObjectKind) (name : String) : Option ObjectRecord :=
  match k with
  | .domain => (r.domain? name).map .domain
  | .host => (r.host? name).map .host
  | .contact => (r.contact? name).map .contact

/-- **Of several objects with one key, the registry of a seed holds the last.** -/
theorem object?_ofSeed (s : Seed) (k : ObjectKind) (name : String) :
    (ofSeed s).object? k name = s.last? k name := by
  cases k with
  | domain =>
      rw [object?, domain?, ofSeed, Table.find?_ofList, Seed.last?, Seed.objects, List.filter_map,
        List.getLast?_map]
      rfl
  | host =>
      rw [object?, host?, ofSeed, Table.find?_ofList, Seed.last?, Seed.objects, List.filter_map,
        List.getLast?_map]
      rfl
  | contact =>
      rw [object?, contact?, ofSeed, Table.find?_ofList, Seed.last?, Seed.objects, List.filter_map,
        List.getLast?_map]
      rfl

theorem holds_eq (r : Registry) (k : ObjectKind) (name : String) :
    r.holds k name = (r.object? k name).isSome := by
  cases k <;> simp [holds, object?]

theorem sponsor?_eq (r : Registry) (k : ObjectKind) (name : String) :
    r.sponsor? k name = (r.object? k name).map (·.sponsor) := by
  cases k <;> simp [sponsor?, object?, ObjectRecord.sponsor, Function.comp_def]

end Registry

end Provisioning
