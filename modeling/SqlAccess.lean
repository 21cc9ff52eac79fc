import SqlAccess.Cell.SqlServer
import SqlAccess.Driver.Script
import SqlAccess.Main
import SqlAccess.NativeType
import SqlAccess.Session.Postgres
import SqlAccess.Proofs.Connection.Accounting
import SqlAccess.Proofs.Connection.Ephemeral
import SqlAccess.Proofs.Connection.Transactions
import SqlAccess.Proofs.Literal.Recognition
import SqlAccess.Proofs.Literal.Stability
import SqlAccess.Proofs.Page.Agreement
import SqlAccess.Proofs.Page.Statements
import SqlAccess.Proofs.Metadata.Reread
import SqlAccess.Proofs.Page.Serialized
import SqlAccess.Proofs.Page.Walk
import SqlAccess.Proofs.Connection.Inquiries
import SqlAccess.Proofs.Lexical.Tokens
import SqlAccess.Proofs.Lexical.Template
import SqlAccess.Proofs.ConnectionString.Secrecy
import SqlAccess.Proofs.ConnectionString.UrlDatabase
import SqlAccess.Proofs.Connection.BlankStrings
import SqlAccess.Proofs.Page.CarriedKeys
import SqlAccess.Proofs.Page.Acceptance
import SqlAccess.Proofs.Catalog.Choice
import SqlAccess.Proofs.Page.Integers
import SqlAccess.Proofs.Connection.Redirection
import SqlAccess.Proofs.Batch.Retries
import SqlAccess.Proofs.ConnectionString.Concealment
import SqlAccess.Proofs.ConnectionString.PathName
import SqlAccess.Proofs.Lexical.Scan
import SqlAccess.Proofs.ConnectionString.QuotedValues
import SqlAccess.Proofs.Lexical.Places
import SqlAccess.Proofs.Catalog.RebuiltDefinition
import SqlAccess.Proofs.Catalog.DeclaredType
import SqlAccess.Proofs.Catalog.Quotation
import SqlAccess.Proofs.Json.Untagged
import SqlAccess.Proofs.Catalog.ForeignKeys
import SqlAccess.Proofs.Literal.OuterParentheses
import SqlAccess.Proofs.Cell.IntegerNames
import SqlAccess.Proofs.Decimal.Whole
import SqlAccess.Proofs.Literal.IntegerDefault
import SqlAccess.Proofs.Query.Grammar
import SqlAccess.Proofs.Query.Meaning
import SqlAccess.Proofs.Query.Reread
import SqlAccess.Proofs.Page.Queries
import SqlAccess.Proofs.Query.Arrangement
