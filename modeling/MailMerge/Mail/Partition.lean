import MailMerge.Mail.Resource
import MailMerge.Mail.Placeholder
import MailMerge.Tag.Custom
/-!
The values of a mail, told apart: images, which are attached, and scalars, which are put into the
text. Values come from the owner's data and from the arguments of a request; an argument goes
before a value of the owner.
-/

namespace MailMerge

/-- Values by name, told apart by whether the declared tag of the name is an image. Images are
still in base64. -/
structure Partition where
  scalars : Dict String
  images : Dict String
  deriving DecidableEq

namespace Partition

/-- No values. -/
def empty : Partition := ⟨Ascending.empty, Ascending.empty⟩

/-- Adds a value of the owner. An image that is not declared as one is left out. -/
def addCustom (imageNames : List String) (p : Partition) (c : CustomTag) : Partition :=
  if c.isResource then
    if imageNames.contains c.name then { p with images := p.images.set c.name c.text } else p
  else { p with scalars := p.scalars.set c.name c.text }

/-- Adds an argument. One that is declared as an image also takes the place of a scalar. -/
def addArgument (imageNames : List String) (p : Partition) (argument : String × String) :
    Partition :=
  if imageNames.contains argument.1 then
    ⟨p.scalars.erase argument.1, p.images.set argument.1 argument.2⟩
  else { p with scalars := p.scalars.set argument.1 argument.2 }

end Partition

/-- The names of the image tags among some tags. -/
def imageNames (tags : TagSet) : List String :=
  (tags.toList.filter MergeTag.isResource).map fun tag => tag.name.text

/-- The values of a mail, told apart. -/
def partitionValues (tags : TagSet) (arguments : Dict String) (custom : List CustomTag) :
    Partition :=
  arguments.toList.foldl (Partition.addArgument (imageNames tags))
    (custom.foldl (Partition.addCustom (imageNames tags)) Partition.empty)

/-- The values of a mail, with the images decoded. -/
structure PreparedMerge where
  scalars : Dict String
  linkedResources : List LinkedResource
  deriving DecidableEq

/-- Tells the values of a mail apart and decodes its images, in the order of their names. -/
def prepareMerge (tags : TagSet) (arguments : Dict String) (custom : List CustomTag)
    (limit : Nat) : Except RenderError PreparedMerge :=
  let p := partitionValues tags arguments custom
  match p.images.toList.mapM fun image => LinkedResource.ofImage image.1 image.2 limit with
  | .error e => .error e
  | .ok resources => .ok ⟨p.scalars, resources⟩

end MailMerge
