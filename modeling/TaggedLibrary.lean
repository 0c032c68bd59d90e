import TaggedLibrary.Main
import TaggedLibrary.Proofs.Leftovers
import TaggedLibrary.Proofs.VerifiedLibrary
import TaggedLibrary.Proofs.RunFrame
import TaggedLibrary.Proofs.Contents
import TaggedLibrary.Proofs.FreshLibrary
import TaggedLibrary.Proofs.ScanOrder
import TaggedLibrary.Proofs.ExactLibrary
import TaggedLibrary.Proofs.Regeneration
import TaggedLibrary.Proofs.RecordedRun
import TaggedLibrary.Proofs.DistinctNames
import TaggedLibrary.Proofs.Layers
import TaggedLibrary.Proofs.LoadedSettings
import TaggedLibrary.Proofs.Outcomes
import TaggedLibrary.Proofs.Removal
import TaggedLibrary.Proofs.Retagging
import TaggedLibrary.Proofs.Deviations
import TaggedLibrary.Proofs.Verdicts
import TaggedLibrary.Proofs.KeptAudio
import TaggedLibrary.Proofs.TrackNames
import TaggedLibrary.Proofs.CopiedFile
import TaggedLibrary.Proofs.AbsentFile
