import QueryFilter.Host.Memory
import QueryFilter.Main
import QueryFilter.Proofs.Filter.Independence
import QueryFilter.Proofs.Filter.Strictness
import QueryFilter.Proofs.Filter.WellFormed
import QueryFilter.Proofs.Mongo.Injective
import QueryFilter.Proofs.Request.Derivation
import QueryFilter.Proofs.Request.FirstFault
import QueryFilter.Proofs.Sql.ReadBack
import QueryFilter.Stored.Read
import QueryFilter.Proofs.Stored.RoundTrip
import QueryFilter.Proofs.Request.Printing
import QueryFilter.Proofs.Condition.Splicing
import QueryFilter.Proofs.Filter.Grouping
import QueryFilter.Proofs.Order.Columns
import QueryFilter.Proofs.Order.Sorting
import QueryFilter.Proofs.Stored.Separation
import QueryFilter.Proofs.Mongo.Regex
import QueryFilter.Proofs.Mongo.Like
import QueryFilter.Proofs.Filter.Joining
import QueryFilter.Proofs.Filter.Regrouping
import QueryFilter.Proofs.Filter.Flattening
import QueryFilter.Proofs.Request.Casing
import QueryFilter.Proofs.Request.Renaming
import QueryFilter.Proofs.Order.Clauses
import QueryFilter.Proofs.Request.Membership
import QueryFilter.Proofs.Number.Value
import QueryFilter.Proofs.Request.Counts
import QueryFilter.Proofs.CommandLine.Agreement
import QueryFilter.Proofs.CommandLine.Labels
import QueryFilter.Proofs.CommandLine.Tree
import QueryFilter.Proofs.Order.Usable
import QueryFilter.Proofs.Json.Nesting
import QueryFilter.Proofs.Request.Nesting
import QueryFilter.Proofs.Mongo.Operand
