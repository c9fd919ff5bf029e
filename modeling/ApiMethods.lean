import ApiMethods.Argument.Encode
import ApiMethods.CommandLine.Report
import ApiMethods.Main
import ApiMethods.Wire.Base64
import ApiMethods.Wire.Percent
import ApiMethods.Proofs.Resolution
import ApiMethods.Proofs.Walk
import ApiMethods.Proofs.Independence
import ApiMethods.Proofs.KnownTypes
import ApiMethods.Proofs.Merging
import ApiMethods.Proofs.PathBinding
import ApiMethods.Proofs.SkipRules
import ApiMethods.Proofs.Words
import ApiMethods.Proofs.ReplyHeaders
import ApiMethods.Proofs.TypedMethods
import ApiMethods.Proofs.Unfolding
import ApiMethods.Proofs.Layout
import ApiMethods.Proofs.Outcomes
import ApiMethods.Proofs.Accounts
import ApiMethods.Proofs.Blindness
import ApiMethods.Proofs.OwnSecurity
import ApiMethods.Proofs.OptionEffects
import ApiMethods.Proofs.DistinctKeys
import ApiMethods.Proofs.Imports
import ApiMethods.Proofs.PathTemplates
import ApiMethods.Proofs.Versions
import ApiMethods.Proofs.JsonReading
import ApiMethods.Proofs.PlainNodes
import ApiMethods.Proofs.FreeValues
import ApiMethods.Proofs.ReadBack
import ApiMethods.Proofs.RecordReadBack
import ApiMethods.Proofs.SchemaReadBack
import ApiMethods.Proofs.OperationReadBack
import ApiMethods.Proofs.DocumentReadBack
import ApiMethods.Proofs.MethodNames
import ApiMethods.Proofs.IssuePointers
import ApiMethods.Proofs.MergedParameters
import ApiMethods.Proofs.AuthPlans
import ApiMethods.Proofs.BodyReferences
import ApiMethods.Proofs.DeclaredModels
import ApiMethods.Proofs.Wrappers
import ApiMethods.Proofs.Acyclic
import ApiMethods.Proofs.Frame
import ApiMethods.Proofs.NestedCalls
import ApiMethods.Proofs.OlderForm
import ApiMethods.Proofs.OlderBodies
import ApiMethods.Proofs.Answers
import ApiMethods.Proofs.SettledTypes
import ApiMethods.Proofs.JsonAnswers
import ApiMethods.Proofs.WireTexts
import ApiMethods.Proofs.FixedNames
import ApiMethods.Proofs.PathGrammar
import ApiMethods.Proofs.ReferenceNames
import ApiMethods.Proofs.IssueSubjects
import ApiMethods.Proofs.PathItemEntries
