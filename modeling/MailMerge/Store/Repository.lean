import MailMerge.Store.Record
import MailMerge.Template.Owner
/-!
The store of template types and data owners. Types are kept in their stored form, so what is loaded
is a value of its own: changes to it are only seen once it is saved.
-/

namespace MailMerge

open Deflate (Compressor)

/-- A map from identifiers to `β`, in the order of the identifiers. -/
abbrev GuidMap (β : Type) := Ascending (fun entry : Guid × β => entry.1.value.toNat)

namespace GuidMap

variable {β : Type}

/-- The value under an identifier. -/
def get? (m : GuidMap β) (id : Guid) : Option β := (m.find? id.value.toNat).map Prod.snd

/-- Sets the value under an identifier. -/
def set (m : GuidMap β) (id : Guid) (value : β) : GuidMap β := m.insert (id, value)

/-- Takes an identifier away. -/
def erase (m : GuidMap β) (id : Guid) : GuidMap β := m.filter fun entry => entry.1 != id

end GuidMap

/-- What is stored. -/
structure Repository where
  types : GuidMap TypeRecord
  owners : GuidMap DataOwner
  deriving DecidableEq

namespace Repository

/-- The store that holds nothing. -/
def empty : Repository := ⟨Ascending.empty, Ascending.empty⟩

/-- The number of stored template types. -/
def typeCount (r : Repository) : Nat := r.types.toList.length

/-- The template type with an id. -/
def templateType (now : DateTime) (id : Guid) (r : Repository) : Except StoreError TemplateType :=
  match r.types.get? id with
  | some record => record.load now
  | none => .error (.notFound (.templateType id))

/-- Stores a template type under its id. -/
def saveType [Compressor] (tt : TemplateType) (r : Repository) : Repository :=
  { r with types := r.types.set tt.id (.ofType tt) }

/-- Removes the template type with an id. -/
def deleteType (id : Guid) (r : Repository) : Except StoreError Repository :=
  match r.types.get? id with
  | some _ => .ok { r with types := r.types.erase id }
  | none => .error (.notFound (.templateType id))

/-- All template types, in the order of their ids. -/
def templateTypes (now : DateTime) (r : Repository) : Except StoreError (List TemplateType) :=
  r.types.toList.mapM fun entry => entry.2.load now

/-- The data owner with an id. -/
def dataOwner (id : Guid) (r : Repository) : Except StoreError DataOwner :=
  match r.owners.get? id with
  | some owner => .ok owner
  | none => .error (.notFound (.dataOwner id))

/-- Stores a data owner under its id. -/
def saveOwner (owner : DataOwner) (r : Repository) : Repository :=
  { r with owners := r.owners.set owner.id owner }

end Repository

end MailMerge
