import SwaggerClient.Files.Tree
import SwaggerClient.Main
import SwaggerClient.Proofs.Entries
import SwaggerClient.Proofs.Schema.Depth
import SwaggerClient.Proofs.Schema.Merge
import SwaggerClient.Proofs.Outcome
import SwaggerClient.Proofs.Reference.Expansion
import SwaggerClient.Proofs.Schema.Read
import SwaggerClient.Proofs.Reference.Lookup
import SwaggerClient.Proofs.Reference.Bound
import SwaggerClient.Proofs.Reference.Termination
import SwaggerClient.Proofs.Reference.Flattening
import SwaggerClient.Proofs.Model.Inheritance
import SwaggerClient.Proofs.Api.Inheritance
import SwaggerClient.Proofs.Reference.Parts
import SwaggerClient.Proofs.Model.Classification
import SwaggerClient.Proofs.Model.Call
import SwaggerClient.Proofs.Model.Class
import SwaggerClient.Proofs.Model.Lineage
import SwaggerClient.Proofs.Api.Calls
import SwaggerClient.Proofs.Api.Superclass
import SwaggerClient.Proofs.Model.Endless
import SwaggerClient.Proofs.Schema.Height
import SwaggerClient.Proofs.Model.Termination
import SwaggerClient.Proofs.Model.Cycle
import SwaggerClient.Proofs.Model.ReferenceType
import SwaggerClient.Proofs.Document.Alike
import SwaggerClient.Proofs.Reference.Extension
import SwaggerClient.Proofs.Traversal
import SwaggerClient.Proofs.Model.Extension
import SwaggerClient.Proofs.Api.Gathering
import SwaggerClient.Proofs.Document.Entries
import SwaggerClient.Proofs.Document.Change
import SwaggerClient.Proofs.Api.Repetition
import SwaggerClient.Proofs.Api.Order
import SwaggerClient.Proofs.Schema.Write
import SwaggerClient.Proofs.Api.Report
import SwaggerClient.Proofs.Document.Write
import SwaggerClient.Proofs.Files.Tree
import SwaggerClient.Proofs.CommandLine.Run
import SwaggerClient.Proofs.Model.MapType
import SwaggerClient.Proofs.Reference.Pointer
import SwaggerClient.Proofs.Schema.Associativity
import SwaggerClient.Proofs.Reference.Grouping
import SwaggerClient.Proofs.Reference.Ignored
import SwaggerClient.Proofs.Reference.Follow
import SwaggerClient.Proofs.Reference.Definitions
import SwaggerClient.Proofs.Model.Deduplication
import SwaggerClient.Proofs.Api.Response
import SwaggerClient.Proofs.Text.Split
import SwaggerClient.Proofs.Naming.Url
import SwaggerClient.Proofs.Api.Path
import SwaggerClient.Proofs.Unicode.CaseMapping
import SwaggerClient.Proofs.Naming.Words
import SwaggerClient.Proofs.Naming.Identifier
import SwaggerClient.Proofs.Naming.ClassName
import SwaggerClient.Proofs.Model.Enumeration
import SwaggerClient.Proofs.Model.Nesting
import SwaggerClient.Proofs.Api.Nesting
