import SqlDialect.Text.Ascii
import SqlDialect.Text.Blank
import SqlDialect.Text.Capital
import SqlDialect.Version.Basic
import SqlDialect.Version.Parser
import SqlDialect.Timeline
import SqlDialect.Family
import SqlDialect.DataType
import SqlDialect.Builtin.Basic
import SqlDialect.Builtin.Merge
import SqlDialect.ObjectKind
import SqlDialect.Variable
import SqlDialect.Mode.Flag
import SqlDialect.Mode.Basic
import SqlDialect.Mode.Text
import SqlDialect.Mode.Availability
import SqlDialect.Error
import SqlDialect.Charset.Basic
import SqlDialect.Charset.Conversion
import SqlDialect.Collation
import SqlDialect.Catalog.Tables
import SqlDialect.Catalog.MySql.Words
import SqlDialect.Catalog.MySql.Syntax
import SqlDialect.Catalog.MySql.Server
import SqlDialect.Catalog.MySql.Builtins
import SqlDialect.Catalog.MariaDb.Tables
import SqlDialect.Catalog.MariaDb.Builtins
import SqlDialect.Catalog.Shipped
import SqlDialect.Naming
import SqlDialect.Platform.Resolution
import SqlDialect.Platform.Preset
import SqlDialect.Platform.Basic
import SqlDialect.Platform.Comment
import SqlDialect.Platform.Query
import SqlDialect.Platform.Snapshot
import SqlDialect.Version.Request
import SqlDialect.Platform.Pool
import SqlDialect.Settings
import SqlDialect.Text.Quoted
import SqlDialect.Rendering
import SqlDialect.Json.Basic
import SqlDialect.Json.Literal
import SqlDialect.Json.Reader
import SqlDialect.Json.Values
import SqlDialect.Session.Basic
import SqlDialect.Session.Field
import SqlDialect.Session.Json
import SqlDialect.Yaml.Cursor
import SqlDialect.Yaml.Scalar
import SqlDialect.Yaml.Block
import SqlDialect.Yaml.Mapping
import SqlDialect.Session.Yaml
import SqlDialect.Proofs.Platform.Build
import SqlDialect.Proofs.Pool.Step
import SqlDialect.Proofs.Text.Split
import SqlDialect.Proofs.Pool.Run
import SqlDialect.Proofs.Platform.Resolution
import SqlDialect.Proofs.Mode.Word
import SqlDialect.Proofs.Text.Case
import SqlDialect.Proofs.Mode.RoundTrip
import SqlDialect.Proofs.Version.Series
import SqlDialect.Proofs.Mode.Expansion
import SqlDialect.Proofs.Text.Quoted
import SqlDialect.Proofs.Rendering.Literal
import SqlDialect.Proofs.Platform.Words
import SqlDialect.Proofs.Rendering.Name
import SqlDialect.Proofs.Builtin.Roster
import SqlDialect.Proofs.Builtin.Merge
import SqlDialect.Proofs.Pool.Transparency
import SqlDialect.Proofs.Version.Number
import SqlDialect.Proofs.Builtin.Lookup
import SqlDialect.Proofs.Platform.Upgrade
import SqlDialect.Proofs.Platform.DefaultMode
import SqlDialect.Proofs.Platform.Spelling
import SqlDialect.Proofs.Timeline.Order
import SqlDialect.Proofs.Platform.Reply
import SqlDialect.Proofs.Platform.TableOrder
import SqlDialect.Proofs.Pool.CurrentVersion
import SqlDialect.Proofs.Session.Settings
import SqlDialect.Proofs.Text.Number
import SqlDialect.Proofs.Version.Grammar
import SqlDialect.Proofs.Version.RoundTrip
import SqlDialect.Proofs.Platform.Additive
import SqlDialect.Proofs.Json.Literal
import SqlDialect.Proofs.Json.Object
import SqlDialect.Proofs.Session.Field
import SqlDialect.Proofs.Session.Document
import SqlDialect.Proofs.Mode.Edits
import SqlDialect.Proofs.Version.Order
import SqlDialect.Proofs.Naming
import SqlDialect.Proofs.Mode.Items
import SqlDialect.Proofs.Mode.Lists
import SqlDialect.Proofs.Platform.Comment
import SqlDialect.Proofs.Charset.Names
import SqlDialect.Proofs.Charset.Conversion
import SqlDialect.Proofs.DataType.Names
import SqlDialect.Proofs.Settings.Edits
import SqlDialect.Proofs.Timeline.Splitting
