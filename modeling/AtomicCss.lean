import AtomicCss.Bundle
import AtomicCss.Catalog.Document
import AtomicCss.Catalog.Rule
import AtomicCss.Config.Loading
import AtomicCss.Proofs.Ident.Spelling
import AtomicCss.Proofs.Compilation.Draws
import AtomicCss.Proofs.Table.Views
import AtomicCss.Resolution
import AtomicCss.Table.Lemmas
import AtomicCss.Text.Romanization
import AtomicCss.Proofs.Compilation.Named
import AtomicCss.Proofs.Compilation.Sites
import AtomicCss.Proofs.Compilation.Catalog
import AtomicCss.Proofs.Resolution.Interpretation
import AtomicCss.Proofs.Catalog.Rules
import AtomicCss.Proofs.Catalog.Agreement
import AtomicCss.Proofs.Catalog.Cascade
import AtomicCss.Proofs.Config.Validation
import AtomicCss.Proofs.Resolution.References
import AtomicCss.Proofs.Catalog.Overriding
import AtomicCss.Proofs.Json.Quoted
import AtomicCss.Proofs.Resolution.Shorthands
import AtomicCss.Proofs.Json.Grammar
import AtomicCss.Proofs.Json.Layouts
import AtomicCss.Proofs.Reading.Faithful
import AtomicCss.Proofs.Config.Document
import AtomicCss.Proofs.Catalog.Document
import AtomicCss.Proofs.Resolution.JsonProps
import AtomicCss.Proofs.Resolution.Splitting
import AtomicCss.Proofs.Compilation.Declared
import AtomicCss.Proofs.Resolution.Reordering
import AtomicCss.Proofs.Resolution.Identifiers
import AtomicCss.Proofs.Catalog.Extension
import AtomicCss.Proofs.Ident.Opening
import AtomicCss.Proofs.Catalog.Requests
import AtomicCss.Proofs.Catalog.Unescaped
import AtomicCss.Proofs.Catalog.Namespaces
import AtomicCss.Proofs.Json.Numbers
import AtomicCss.Proofs.Resolution.Numbers
import AtomicCss.Proofs.Property.Merging
import AtomicCss.Proofs.Resolution.Traversal
import AtomicCss.Proofs.Alias.Scanner
import AtomicCss.Proofs.Json.Numerals
import AtomicCss.Proofs.Yaml.Flow
import AtomicCss.Proofs.Yaml.Marks
import AtomicCss.Proofs.Yaml.Nodes
import AtomicCss.Proofs.Yaml.Contents
import AtomicCss.Proofs.Reading.Formats
import AtomicCss.Proofs.Config.Loading
import AtomicCss.Proofs.Number.Rounding
import AtomicCss.Proofs.Yaml.Numerals
import AtomicCss.Proofs.Resolution.Composition
import AtomicCss.Proofs.Compilation.Repetition
import AtomicCss.Proofs.Shorthand.Walk
import AtomicCss.Proofs.Alias.Separators
import AtomicCss.Proofs.Ident.Runs
import AtomicCss.Proofs.CssName.Camel
import AtomicCss.Proofs.Scale.Forms
import AtomicCss.Proofs.Shorthand.Calls
import AtomicCss.Proofs.Ident.Search
