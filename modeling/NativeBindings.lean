import NativeBindings.Collection.Basic
import NativeBindings.Collection.Walk
import NativeBindings.Command.Arguments
import NativeBindings.Command.Configure
import NativeBindings.Command.Run
import NativeBindings.Config.Basic
import NativeBindings.Config.Decode
import NativeBindings.Config.File
import NativeBindings.Declaration.Aliases
import NativeBindings.Declaration.Basic
import NativeBindings.Declaration.Collector
import NativeBindings.Declaration.Decode
import NativeBindings.Descriptor.Basic
import NativeBindings.Descriptor.Decode
import NativeBindings.Files.Path
import NativeBindings.Files.Tree
import NativeBindings.Header.BuiltinFunction
import NativeBindings.Header.BuiltinTable
import NativeBindings.Header.Compatible
import NativeBindings.Header.Condition
import NativeBindings.Header.Decl
import NativeBindings.Header.Describe
import NativeBindings.Header.DriverOption
import NativeBindings.Header.DriverOption.Table
import NativeBindings.Header.Entity
import NativeBindings.Header.Expr
import NativeBindings.Header.Expr.Basic
import NativeBindings.Header.Expr.Builtin
import NativeBindings.Header.Features
import NativeBindings.Header.Floating
import NativeBindings.Header.IdentifierChars
import NativeBindings.Header.Initialize
import NativeBindings.Header.Keywords
import NativeBindings.Header.KnownPragmas
import NativeBindings.Header.Layout
import NativeBindings.Header.Lexer
import NativeBindings.Header.Literal
import NativeBindings.Header.Macro
import NativeBindings.Header.Options
import NativeBindings.Header.Parsed
import NativeBindings.Header.Pragma
import NativeBindings.Header.Pragmas
import NativeBindings.Header.Predefined
import NativeBindings.Header.Preprocessor
import NativeBindings.Header.Reader.Grammar
import NativeBindings.Header.Reader.Operation
import NativeBindings.Header.Reader.Sema
import NativeBindings.Header.Reader.State
import NativeBindings.Header.Spelling
import NativeBindings.Header.Target
import NativeBindings.Header.Token
import NativeBindings.Header.Type
import NativeBindings.Header.Unit
import NativeBindings.Header.Warnings
import NativeBindings.Json.Lax
import NativeBindings.Json.Read
import NativeBindings.Json.Value
import NativeBindings.Json.Binary64
import NativeBindings.Main
import NativeBindings.Managed.Keyword
import NativeBindings.Managed.Source
import NativeBindings.Managed.TypeName
import NativeBindings.Proofs.Collector
import NativeBindings.Proofs.WalkStep
import NativeBindings.Proofs.Expansion
import NativeBindings.Proofs.IncludeOrder
import NativeBindings.Proofs.Visits
import NativeBindings.Proofs.StructLedger
import NativeBindings.Proofs.LastDefinition
import NativeBindings.Proofs.EmittedNames
import NativeBindings.Proofs.AliasMode
import NativeBindings.Proofs.FileReads
import NativeBindings.Proofs.AnonymousFields
import NativeBindings.Proofs.ConstStripping
import NativeBindings.Proofs.SourceText
import NativeBindings.Proofs.SourceReading
import NativeBindings.Proofs.ReferenceNames
import NativeBindings.Proofs.TypedefNaming
import NativeBindings.Proofs.DeclarationDepth
import NativeBindings.Proofs.NamingWalk
import NativeBindings.Proofs.NamingTotal
import NativeBindings.Proofs.ParameterNames
import NativeBindings.Proofs.ProjectSearch
import NativeBindings.Proofs.PathNormalForm
import NativeBindings.Proofs.OptionOverrides
import NativeBindings.Text.Blank
import NativeBindings.Text.CharacterName
import NativeBindings.Text.CharacterName.Table
import NativeBindings.Text.Digits
import NativeBindings.Text.Erase
