import DocPipeline.Folder
import DocPipeline.Main
import DocPipeline.Outline
import DocPipeline.Proofs.SingleCompletion
import DocPipeline.Proofs.Registration
import DocPipeline.Proofs.Turns
import DocPipeline.Proofs.Lifetime
import DocPipeline.Proofs.EnabledFlags
import DocPipeline.Proofs.Confinement
import DocPipeline.Proofs.Mirroring
import DocPipeline.Proofs.System
import DocPipeline.Proofs.Isolation
import DocPipeline.Proofs.Invocations
import DocPipeline.Proofs.SyncAgreement
import DocPipeline.Proofs.Writes
import DocPipeline.Proofs.Schedules
import DocPipeline.Proofs.Folding
import DocPipeline.Proofs.SerialRun
import DocPipeline.Proofs.Reconfiguring
import DocPipeline.Proofs.ResumedFreeze
import DocPipeline.Proofs.Entries
import DocPipeline.Proofs.Using
import DocPipeline.Proofs.CyclicUse
import DocPipeline.Proofs.Lines
import DocPipeline.Proofs.Trimming
import DocPipeline.Proofs.Paragraphs
import DocPipeline.Proofs.Driving
import DocPipeline.Proofs.Staging
import DocPipeline.Proofs.DefaultPipeline
import DocPipeline.Proofs.Reparsing
import DocPipeline.Proofs.Resolving
import DocPipeline.Proofs.PresetUse
import DocPipeline.Proofs.PresetOptions
import DocPipeline.Proofs.MergedPaths
import DocPipeline.Proofs.OptionHistory
import DocPipeline.Proofs.MaximalRuns
import DocPipeline.Proofs.BuiltinPlugins
import DocPipeline.Proofs.BuiltinPipelines
import DocPipeline.Proofs.Traversals
import DocPipeline.Proofs.Rewriting
import DocPipeline.Proofs.TrimmedTexts
import DocPipeline.Proofs.BuiltinEffects
import DocPipeline.Proofs.TrimAgreement
import DocPipeline.Proofs.PresetRoundTrip
import DocPipeline.Proofs.WordCounts
import DocPipeline.Proofs.HandleReplay
import DocPipeline.Proofs.LastResult
import DocPipeline.Proofs.NodeHistory
