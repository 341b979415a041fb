-- SUMMARY: The shape of what the objects of a cluster have in common: their metadata, quantities and selectors.
import NetAttach.Json.Shape
import NetAttach.Text.Moment

/-!
# Shapes of metadata

The objects of a cluster are loose: every member may be absent or `null`, and members
that are not known are passed over. Only the kind of an object, if it is there, has to
be the right one.
-/

namespace NetAttach.Cluster.Shape

open NetAttach.Json

-- ---------------------------------------------------------------------------
-- Leaves
-- ---------------------------------------------------------------------------

/-- A point in time. -/
def moment : Shape := .textOf Text.isMoment

/-- An amount of a resource, such as `500m` or `1Gi`; any text goes. -/
def quantity : Shape := .text

def quantities : Shape := .dict quantity

/-- A port, by its number or its name. -/
def intOrName : Shape := .intOrText (-0x80000000) 0x7FFFFFFF

/-- A text that can only be the given one. -/
def constant (expected : String) : Shape := .textOf (· == expected)

/-- An object with texts. -/
def textObject (names : List String) : Shape := .looseObject (Shape.each .text names)

/-- A list of objects with texts. -/
def textObjects (names : List String) : Shape := .list (textObject names)

-- ---------------------------------------------------------------------------
-- Metadata
-- ---------------------------------------------------------------------------

/-- An owner of an object. -/
def owner : Shape :=
  .looseObject (Shape.each .text ["apiVersion", "kind", "name", "uid"]
    ++ Shape.each .flag ["blockOwnerDeletion", "controller"])

/-- Who manages which members of an object. -/
def managedFields : Shape :=
  .looseObject (
    Shape.each .text ["apiVersion", "fieldsType", "manager", "operation", "subresource"]
      ++ [("fieldsV1", .free), ("time", moment)])

/-- The metadata of an object. -/
def metadata : Shape :=
  .looseObject (
    Shape.each .text ["generateName", "name", "namespace", "resourceVersion", "selfLink", "uid"]
      ++ Shape.each moment ["creationTimestamp", "deletionTimestamp"]
      ++ Shape.each .int64 ["deletionGracePeriodSeconds", "generation"]
      ++ Shape.each .textDict ["annotations", "labels"]
      ++ [("finalizers", .texts), ("managedFields", .list managedFields),
        ("ownerReferences", .list owner)])

/-- The members that tell the kind of an object. They may be absent, but not `null`. -/
def kinded (apiVersion kind : String) : List (String × Shape) :=
  [("apiVersion", constant apiVersion), ("kind", constant kind)]

-- ---------------------------------------------------------------------------
-- Selectors
-- ---------------------------------------------------------------------------

/-- A requirement on the value of a key. -/
def requirement : Shape :=
  .looseObject [("key", .text), ("operator", .text), ("values", .texts)]

/-- A selector of objects by their labels. -/
def labelSelector : Shape :=
  .looseObject [("matchExpressions", .list requirement), ("matchLabels", .textDict)]

end NetAttach.Cluster.Shape
