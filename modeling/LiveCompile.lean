import LiveCompile.Main
import LiveCompile.Buffer.Listing
import LiveCompile.Proofs.PipelineMove
import LiveCompile.Proofs.PipelineCoherence
import LiveCompile.Proofs.PipelineLifecycle
import LiveCompile.Proofs.PipelineRequests
import LiveCompile.Proofs.PipelineAnswers
import LiveCompile.Proofs.PipelineUpdates
import LiveCompile.Proofs.PipelineFollowUp
import LiveCompile.Proofs.CacheHistory
import LiveCompile.Proofs.PipelineDownstream
import LiveCompile.Proofs.PipelineStop
import LiveCompile.Proofs.CacheIndependence
import LiveCompile.Proofs.CacheTransparency
import LiveCompile.Proofs.CacheIdentity
import LiveCompile.Proofs.PipelineTriggers
import LiveCompile.Proofs.PipelineDebounce
import LiveCompile.Proofs.BufferRefinement
import LiveCompile.Proofs.Notification
import LiveCompile.Proofs.BufferHistory
import LiveCompile.Proofs.PipelineHints
import LiveCompile.Proofs.BusRun
import LiveCompile.Proofs.BusDelivery
import LiveCompile.Proofs.PipelineServing
import LiveCompile.Proofs.SessionCompiles
import LiveCompile.Proofs.JsonReread
import LiveCompile.Proofs.RecordReread
import LiveCompile.Proofs.ChunkReread
import LiveCompile.Proofs.WorldReread
import LiveCompile.Proofs.SingleCompile
import LiveCompile.Proofs.RecordFields
import LiveCompile.Proofs.JsonLiterals
import LiveCompile.Proofs.JsonGrammar
import LiveCompile.Proofs.JsonRoundTrip
import LiveCompile.Proofs.DetachedReading
import LiveCompile.Proofs.HeaderReread
import LiveCompile.Proofs.OutputReread
import LiveCompile.Proofs.JsonLine
import LiveCompile.Proofs.EventReread
import LiveCompile.Proofs.PipelineShutdown
import LiveCompile.Proofs.WorldNormalForm
import LiveCompile.Proofs.ExitRecords
import LiveCompile.Proofs.WorldText
import LiveCompile.Proofs.WorldTyping
import LiveCompile.Proofs.PublishedHashes
import LiveCompile.Proofs.BusAudience
import LiveCompile.Proofs.ReportedErrors
import LiveCompile.Proofs.PipelineBursts
import LiveCompile.Proofs.SourceRecognition
import LiveCompile.Proofs.RequestDelivery
