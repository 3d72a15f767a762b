import TypedRecords.Path.Json
import TypedRecords.Text.Quoted
import TypedRecords.Text.Blank
import TypedRecords.Text.Lowercase
import TypedRecords.Text.Word
import TypedRecords.Text.Fold
import TypedRecords.Number.Fixed
import TypedRecords.Number.Shortest
import TypedRecords.Calendar.Timestamp
import TypedRecords.Collection.Sorted
import TypedRecords.Configuration
import TypedRecords.Converter.Enumeration
import TypedRecords.Converter.Flag
import TypedRecords.Converter.Calendar
import TypedRecords.Converter.Collection
import TypedRecords.Converter.Structured
import TypedRecords.Pattern.Reader
import TypedRecords.Validator.Standard
import TypedRecords.Property.Draft
import TypedRecords.Property.Validation
import TypedRecords.Record.Draft
import TypedRecords.Resolver.Access
import TypedRecords.Catalogue.Profile
import TypedRecords.Catalogue.Conversions
import TypedRecords.Catalogue.Policies
import TypedRecords.Proofs.Collection.Table
import TypedRecords.Proofs.Property.Population
import TypedRecords.Proofs.Record.History
import TypedRecords.Proofs.Record.LastWrite
import TypedRecords.Proofs.Sample
import TypedRecords.Proofs.Record.Comparison
import TypedRecords.Proofs.Record.Copy
import TypedRecords.Proofs.Record.Protection
import TypedRecords.Proofs.Property.Validation
import TypedRecords.Proofs.Collection.Distinct
import TypedRecords.Proofs.Schema.Change
import TypedRecords.Proofs.Schema.Building
import TypedRecords.Proofs.Record.Making
import TypedRecords.Proofs.Record.Store
import TypedRecords.Proofs.Record.Validity
import TypedRecords.Proofs.Resolver.Memory
import TypedRecords.Proofs.Property.Making
import TypedRecords.Proofs.Property.Equality
import TypedRecords.Proofs.Record.Order
import TypedRecords.Proofs.Resolver.Access
import TypedRecords.Proofs.Converter.Standard
import TypedRecords.Proofs.Record.Transfer
import TypedRecords.Proofs.Path.Parsing
import TypedRecords.Proofs.Collection.Union
import TypedRecords.Proofs.Collection.Merging
import TypedRecords.Proofs.Schema.Joining
import TypedRecords.Proofs.Record.Identifiers
import TypedRecords.Proofs.Path.Json
import TypedRecords.Proofs.Property.Outcome
import TypedRecords.Proofs.Resolver.Naming
import TypedRecords.Proofs.Resolver.Reporting
import TypedRecords.Proofs.Record.ModelWriting
import TypedRecords.Proofs.Error
import TypedRecords.Proofs.Validator.Composition
import TypedRecords.Proofs.Record.Validation
import TypedRecords.Proofs.Collection.Sorted
import TypedRecords.Proofs.Converter.Collection
import TypedRecords.Proofs.Converter.Structured
import TypedRecords.Proofs.Converter.Enumeration
import TypedRecords.Proofs.Calendar.Date
import TypedRecords.Proofs.Calendar.Zone
import TypedRecords.Proofs.Calendar.Timestamp
import TypedRecords.Proofs.Converter.Calendar
import TypedRecords.Proofs.Record.Dates
import TypedRecords.Proofs.Property.Duplication
import TypedRecords.Proofs.Pattern.Matching
import TypedRecords.Proofs.Pattern.Language
import TypedRecords.Proofs.Validator.Email
import TypedRecords.Proofs.Configuration.History
import TypedRecords.Proofs.Configuration.Reading
import TypedRecords.Proofs.Text.Lowercase
import TypedRecords.Proofs.Resolver.AnyCase
