/-!
# Node kinds and reference properties

The language of models has a fixed set of node kinds and of properties that hold
references to other nodes. This module is its table: which kinds have a global
identity, which view an entity, which kinds may stand in for another, and what a
property of a kind refers to.
-/

namespace ModelBinding

/-- The kinds of node in a model document. -/
inductive NodeKind where
  | root
  | dataModel
  | dataModelDependency
  | logicalEntity
  | logicalAttribute
  | relationship
  | relationshipAttribute
  | systemDiagram
  | logicalEntityNode
  | logicalEntityNodeAttribute
  | relationshipEdge
  | inheritanceEdge
  | mapping
  | sourceObject
  | sourceObjectAttribute
  | sourceObjectDependency
  | joinCondition
  | sourceObjectAttributeReference
  | targetObject
  | targetObjectAttribute
  | attributeMapping
  | attributeMappingSource
  | attributeMappingTarget
  deriving DecidableEq

/-- The properties under which a node holds references. -/
inductive Property where
  | entity
  | parent
  | child
  | relationship
  | sourceNode
  | targetNode
  | baseNode
  | superNode
  | source
  | value
  | dataModel
  | superEntities
  | expression
  deriving DecidableEq

namespace NodeKind

/-- All kinds, in order of declaration. -/
def all : List NodeKind :=
  [root, dataModel, dataModelDependency, logicalEntity, logicalAttribute, relationship,
    relationshipAttribute, systemDiagram, logicalEntityNode, logicalEntityNodeAttribute,
    relationshipEdge, inheritanceEdge, mapping, sourceObject, sourceObjectAttribute,
    sourceObjectDependency, joinCondition, sourceObjectAttributeReference, targetObject,
    targetObjectAttribute, attributeMapping, attributeMappingSource, attributeMappingTarget]

theorem mem_all (k : NodeKind) : k ∈ all := by
  cases k <;> decide

/-- The name of a kind as shown to users. -/
def name : NodeKind → String
  | root => "Root"
  | dataModel => "DataModel"
  | dataModelDependency => "DataModelDependency"
  | logicalEntity => "LogicalEntity"
  | logicalAttribute => "LogicalAttribute"
  | relationship => "Relationship"
  | relationshipAttribute => "RelationshipAttribute"
  | systemDiagram => "SystemDiagram"
  | logicalEntityNode => "LogicalEntityNode"
  | logicalEntityNodeAttribute => "LogicalEntityNodeAttribute"
  | relationshipEdge => "RelationshipEdge"
  | inheritanceEdge => "InheritanceEdge"
  | mapping => "Mapping"
  | sourceObject => "SourceObject"
  | sourceObjectAttribute => "SourceObjectAttribute"
  | sourceObjectDependency => "SourceObjectDependency"
  | joinCondition => "JoinCondition"
  | sourceObjectAttributeReference => "SourceObjectAttributeReference"
  | targetObject => "TargetObject"
  | targetObjectAttribute => "TargetObjectAttribute"
  | attributeMapping => "AttributeMapping"
  | attributeMappingSource => "AttributeMappingSource"
  | attributeMappingTarget => "AttributeMappingTarget"

/-- The kind with a given name. -/
def ofName? (name : String) : Option NodeKind := all.find? (·.name == name)

/-- Nodes of an identified kind have a Global ID and are exported from their document. -/
def isIdentified : NodeKind → Bool
  | dataModel | logicalEntity | logicalAttribute | relationship | systemDiagram
  | logicalEntityNode | logicalEntityNodeAttribute | relationshipEdge | inheritanceEdge
  | mapping | sourceObject | sourceObjectAttribute | targetObjectAttribute => true
  | _ => false

/-- Kinds of attribute that are derived from an entity's attribute. -/
def isDerivedAttribute : NodeKind → Bool
  | logicalEntityNodeAttribute | sourceObjectAttribute | targetObjectAttribute => true
  | _ => false

/-- The kind of the attributes that a node of a viewing kind derives from its entity. -/
def derivedAttributeKind? : NodeKind → Option NodeKind
  | logicalEntityNode => some logicalEntityNodeAttribute
  | sourceObject => some sourceObjectAttribute
  | targetObject => some targetObjectAttribute
  | _ => none

/-- Nodes of a viewing kind show the attributes of an entity as their own. -/
def isEntityView (k : NodeKind) : Bool := k.derivedAttributeKind?.isSome

/-- A kind may stand where `other` is asked for if it is that kind, or if an attribute is asked
for and it is a kind of derived attribute. -/
def isSubtypeOf (k other : NodeKind) : Bool :=
  k == other || (other == logicalAttribute && k.isDerivedAttribute)

/-- The kind of node that a property of a kind refers to; `none` if the kind has no such
property. -/
def referenceTarget? : NodeKind → Property → Option NodeKind
  | dataModelDependency, .dataModel => some dataModel
  | logicalEntity, .superEntities => some logicalEntity
  | relationship, .parent | relationship, .child => some logicalEntity
  | relationshipAttribute, .parent | relationshipAttribute, .child => some logicalAttribute
  | logicalEntityNode, .entity => some logicalEntity
  | relationshipEdge, .relationship => some relationship
  | relationshipEdge, .sourceNode | relationshipEdge, .targetNode => some logicalEntityNode
  | inheritanceEdge, .baseNode | inheritanceEdge, .superNode => some logicalEntityNode
  | sourceObject, .entity => some logicalEntity
  | sourceObjectDependency, .source => some sourceObject
  | sourceObjectAttributeReference, .value => some sourceObjectAttribute
  | targetObject, .entity => some logicalEntity
  | attributeMapping, .expression => some sourceObjectAttribute
  | attributeMappingSource, .value => some sourceObjectAttribute
  | attributeMappingTarget, .value => some targetObjectAttribute
  | _, _ => none

@[simp] theorem isSubtypeOf_self (k : NodeKind) : k.isSubtypeOf k = true := by
  simp [isSubtypeOf]

/-- Only attributes have proper subtypes. -/
theorem isSubtypeOf_iff_eq {k other : NodeKind} (h : other ≠ logicalAttribute) :
    k.isSubtypeOf other = true ↔ k = other := by
  simp [isSubtypeOf, h]

/-- Derived attributes are derived by the viewing kinds. -/
theorem isDerivedAttribute_iff (k : NodeKind) :
    k.isDerivedAttribute = true ↔ ∃ v : NodeKind, v.derivedAttributeKind? = some k := by
  constructor
  · intro h
    cases k <;> simp [isDerivedAttribute] at h
    · exact ⟨logicalEntityNode, rfl⟩
    · exact ⟨sourceObject, rfl⟩
    · exact ⟨targetObject, rfl⟩
  · rintro ⟨v, hv⟩
    cases v <;> simp [derivedAttributeKind?] at hv <;> subst hv <;> rfl

end NodeKind

namespace Property

/-- All properties, in order of declaration. -/
def all : List Property :=
  [entity, parent, child, relationship, sourceNode, targetNode, baseNode, superNode, source,
    value, dataModel, superEntities, expression]

theorem mem_all (p : Property) : p ∈ all := by
  cases p <;> decide

/-- The name of a property as written in documents. -/
def name : Property → String
  | entity => "entity"
  | parent => "parent"
  | child => "child"
  | relationship => "relationship"
  | sourceNode => "sourceNode"
  | targetNode => "targetNode"
  | baseNode => "baseNode"
  | superNode => "superNode"
  | source => "source"
  | value => "value"
  | dataModel => "datamodel"
  | superEntities => "superEntities"
  | expression => "expression"

/-- The property with a given name. -/
def ofName? (name : String) : Option Property := all.find? (·.name == name)

end Property

end ModelBinding
