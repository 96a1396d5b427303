import DocQuery.Main
import DocQuery.Proofs.Formula
import DocQuery.Proofs.Text.Symbols
import DocQuery.Proofs.Text.Tokens
import DocQuery.Proofs.Text.Reading
import DocQuery.Proofs.Text.Literals
import DocQuery.Proofs.Fragment.Writing
import DocQuery.Proofs.Criteria.Formula
import DocQuery.Proofs.FieldPath
import DocQuery.Proofs.Criteria.Reading
import DocQuery.Proofs.Placeholders
import DocQuery.Proofs.Criteria.Meaning
import DocQuery.Proofs.Outcome
import DocQuery.Proofs.Predicate.Meaning
import DocQuery.Proofs.Fragment.Template
import DocQuery.Proofs.Criteria.Exports
import DocQuery.Proofs.Text.Scan
import DocQuery.Proofs.Fragment.Scanning
import DocQuery.Proofs.Criteria.Scanning
import DocQuery.Proofs.Criteria.Resolve
import DocQuery.Proofs.MethodName.Meaning
import DocQuery.Proofs.Query.Placeholders
import DocQuery.Proofs.Argument
import DocQuery.Proofs.Criteria.Arguments
import DocQuery.Proofs.Query.Places
import DocQuery.Proofs.MethodName.Arguments
import DocQuery.Proofs.Criteria.Values
import DocQuery.Proofs.Predicate.Forms
import DocQuery.Proofs.Predicate.Grammar
import DocQuery.Proofs.Predicate.Inversion
import DocQuery.Proofs.Predicate.Values
import DocQuery.Proofs.Query.Values
import DocQuery.Proofs.Report.Values
import DocQuery.Proofs.Query.Clauses
import DocQuery.Proofs.Text.Depth
import DocQuery.Proofs.Report.TypeFilter
import DocQuery.Proofs.Request.Agreement
import DocQuery.Proofs.Criteria.Shape
import DocQuery.Proofs.Json.Numbers
import DocQuery.Proofs.Json.Reading
import DocQuery.Proofs.Placeholders.Calls
import DocQuery.Proofs.Fault
import DocQuery.Proofs.MethodName.Words
import DocQuery.Proofs.MethodName.Scanning
import DocQuery.Proofs.MethodName.Spelling
import DocQuery.Proofs.Config
import DocQuery.Proofs.Json.Depth
import DocQuery.Proofs.Request.Normal
import DocQuery.Proofs.Request.Depth
import DocQuery.Proofs.Report.Reloading
import DocQuery.Proofs.Argument.Normal
import DocQuery.Proofs.Criteria.Normal
import DocQuery.Proofs.Predicate.Normal
import DocQuery.Proofs.Json.Written
import DocQuery.Proofs.Query.Shape
import DocQuery.Proofs.MethodName.Clauses
import DocQuery.Proofs.MethodName.Subjects
import DocQuery.Proofs.MethodName.Decoding
import DocQuery.Proofs.Predicate.Constants
import DocQuery.Proofs.Criteria.Marks
import DocQuery.Proofs.Criteria.Negation
import DocQuery.Proofs.Criteria.Writing
import DocQuery.Proofs.MethodName.Partition
import DocQuery.Proofs.MethodName.Accounting
import DocQuery.Proofs.MethodName.Keywords
import DocQuery.Proofs.Predicate.NegationNormal
import DocQuery.Proofs.Query.Counting
import DocQuery.Proofs.Entity
import DocQuery.Proofs.MethodName.Validation
import DocQuery.Proofs.Criteria.Resolution
import DocQuery.Proofs.FieldPath.Keys
import DocQuery.Proofs.Query.RowSelection
import DocQuery.Proofs.Placeholders.Identifiers
import DocQuery.Proofs.Value.Literals
import DocQuery.Proofs.FieldPath.Reading
import DocQuery.Proofs.Criteria.FailedExports
import DocQuery.Proofs.CommandLine.Agreement
