import ModelBinding.Text.Blank
import ModelBinding.Text.Quoted
import ModelBinding.Name
import ModelBinding.Document
import ModelBinding.Version.Requirement.Parser
import ModelBinding.Registry
import ModelBinding.Workspace
import ModelBinding.Export
import ModelBinding.Index
import ModelBinding.Scope
import ModelBinding.Resolver.Resolve
import ModelBinding.Check
import ModelBinding.Completion
import ModelBinding.Analysis
import ModelBinding.Session
import ModelBinding.Proofs.Keyed
import ModelBinding.Proofs.Tree
import ModelBinding.Proofs.Renumber.Document
import ModelBinding.Proofs.Renumber.Resolution
import ModelBinding.Proofs.Renumber.Derivation
import ModelBinding.Proofs.Growth
import ModelBinding.Proofs.Written
import ModelBinding.Proofs.Workspace
import ModelBinding.Proofs.Index
import ModelBinding.Proofs.Build
import ModelBinding.Proofs.Host
import ModelBinding.Proofs.Origin
import ModelBinding.Proofs.Freshness
import ModelBinding.Proofs.Coherence
import ModelBinding.Proofs.Visibility
import ModelBinding.Proofs.Shelf
import ModelBinding.Proofs.Renumber.Build
import ModelBinding.Proofs.Incremental
import ModelBinding.Proofs.Copies
import ModelBinding.Proofs.Built
import ModelBinding.Proofs.WellFormed
import ModelBinding.Proofs.General
import ModelBinding.Proofs.Planned
import ModelBinding.Proofs.Mirror
import ModelBinding.Proofs.Spelling
import ModelBinding.Proofs.Isolation
import ModelBinding.Proofs.Meaning
import ModelBinding.Proofs.Descriptions
import ModelBinding.Proofs.Lists
import ModelBinding.Proofs.Numbering
import ModelBinding.Proofs.Findings
import ModelBinding.Proofs.Touching
import ModelBinding.Proofs.Dependencies
import ModelBinding.Proofs.Ownership
import ModelBinding.Proofs.Chains
import ModelBinding.Proofs.Rebinding
import ModelBinding.Proofs.Requests
import ModelBinding.Proofs.Numbers
import ModelBinding.Proofs.Ambiguity
import ModelBinding.Proofs.Remedy
import ModelBinding.Proofs.Reach
import ModelBinding.Proofs.Leftovers
import ModelBinding.Proofs.BuiltTree
import ModelBinding.Proofs.MappingNames
import ModelBinding.Proofs.Published
import ModelBinding.Proofs.FreshNames
import ModelBinding.Proofs.Duplicates
import ModelBinding.Proofs.Extended
import ModelBinding.Proofs.Allocation
import ModelBinding.Proofs.Unowned
import ModelBinding.Proofs.Completion
import ModelBinding.Proofs.Members
import ModelBinding.Proofs.JoinConditions
import ModelBinding.Proofs.SourceAttributes
import ModelBinding.Proofs.TargetEntity
import ModelBinding.Proofs.Moved
import ModelBinding.Proofs.Hanging
import ModelBinding.Proofs.Settled
import ModelBinding.Proofs.Saved
import ModelBinding.Proofs.SavedScopes
import ModelBinding.Proofs.Saving
import ModelBinding.Proofs.FreshSearch
import ModelBinding.Proofs.Segments
import ModelBinding.Proofs.DepthFirst
import ModelBinding.Proofs.Arena
import ModelBinding.Proofs.Undoing
