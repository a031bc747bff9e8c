import TopicBindings.Main
import TopicBindings.File.Store
import TopicBindings.Messaging
import TopicBindings.Schema.Plain
import TopicBindings.Proofs.Declaration.Growth
import TopicBindings.Proofs.Generation.Yields
import TopicBindings.Proofs.Generation.Adds
import TopicBindings.Proofs.Generation.Outline
import TopicBindings.Proofs.Generation.Interfaces
import TopicBindings.Proofs.Generation.Built
import TopicBindings.Proofs.Outcome
import TopicBindings.Proofs.Schema.Places
import TopicBindings.Proofs.Binding.Packages
import TopicBindings.Proofs.Generation.Mirror
import TopicBindings.Proofs.Generation.Messages
import TopicBindings.Proofs.Generation.References
import TopicBindings.Proofs.Character.Capital
import TopicBindings.Proofs.Naming.Words
import TopicBindings.Proofs.Declaration.Mentions
import TopicBindings.Proofs.Source.Imports
import TopicBindings.Proofs.Source.Files
import TopicBindings.Proofs.Source.Location
import TopicBindings.Proofs.Binding.Expressions
import TopicBindings.Proofs.Generation.Confined
import TopicBindings.Proofs.Generation.Closure
import TopicBindings.Proofs.File.Store
import TopicBindings.Proofs.Generation.Output
import TopicBindings.Proofs.Command.Execute
import TopicBindings.Proofs.Text.Fields
import TopicBindings.Proofs.Topic.Grammar
import TopicBindings.Proofs.Service.Grouping
import TopicBindings.Proofs.Generation.Assembled
import TopicBindings.Proofs.Generation.ServiceInterfaces
import TopicBindings.Proofs.Generation.LatestAccess
import TopicBindings.Proofs.Declaration.Renaming
import TopicBindings.Proofs.Generation.Follows
import TopicBindings.Proofs.Service.Exchange
import TopicBindings.Proofs.Generation.RoleExchange
import TopicBindings.Proofs.Service.Latest
import TopicBindings.Proofs.Service.Fallback
import TopicBindings.Proofs.Generation.Operations
import TopicBindings.Proofs.Generation.Parallel
import TopicBindings.Proofs.Declaration.Recast
import TopicBindings.Proofs.Generation.Repeats
import TopicBindings.Proofs.Naming.Initials
import TopicBindings.Proofs.Generation.Relocation
import TopicBindings.Proofs.Declaration.Additions
import TopicBindings.Proofs.Generation.Calls
import TopicBindings.Proofs.Generation.Additions
import TopicBindings.Proofs.Schema.Messages
import TopicBindings.Proofs.Generation.InlineMessages
import TopicBindings.Proofs.Declaration.Room
import TopicBindings.Proofs.Generation.Unclashed
import TopicBindings.Proofs.Generation.Identifiers
import TopicBindings.Proofs.Generation.Accessors
import TopicBindings.Proofs.Generation.Collisions
import TopicBindings.Proofs.Generation.TopicTable
import TopicBindings.Proofs.Text.Quoted
import TopicBindings.Proofs.Source.Literals
import TopicBindings.Proofs.Generation.TopicKeys
import TopicBindings.Proofs.Generation.WireNames
import TopicBindings.Proofs.Naming.Edges
import TopicBindings.Proofs.Source.Spelling
import TopicBindings.Proofs.Source.Paths
import TopicBindings.Proofs.Generation.OwnFiles
import TopicBindings.Proofs.Source.PackageTexts
import TopicBindings.Proofs.Generation.PackageFiles
import TopicBindings.Proofs.Source.Members
import TopicBindings.Proofs.Generation.Regular
import TopicBindings.Proofs.Generation.Unshadowed
import TopicBindings.Proofs.Source.Homes
import TopicBindings.Proofs.Generation.ImportLayers
import TopicBindings.Proofs.Version
import TopicBindings.Proofs.Binding.Resolution
import TopicBindings.Proofs.Source.Docstring
import TopicBindings.Proofs.Generation.Found
import TopicBindings.Proofs.Naming.TypeNames
import TopicBindings.Proofs.Version.Text
import TopicBindings.Proofs.Schema.PlainForms
import TopicBindings.Proofs.Source.Blocks
import TopicBindings.Proofs.Markup.Keys
import TopicBindings.Proofs.Generation.OptionsFile
