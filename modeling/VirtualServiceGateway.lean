import VirtualServiceGateway.Foundation.Execution
import VirtualServiceGateway.Foundation.Interleaving
import VirtualServiceGateway.Foundation.Linearization
import VirtualServiceGateway.Foundation.WrappingCounter
import VirtualServiceGateway.Foundation.CheckedOperation
import VirtualServiceGateway.Foundation.RankedList
import VirtualServiceGateway.Foundation.TextExtraction
import VirtualServiceGateway.Foundation.OptionScan
import VirtualServiceGateway.Foundation.CollectedSum
import VirtualServiceGateway.Foundation.GuardedSequence
import VirtualServiceGateway.Foundation.BoundedRing
import VirtualServiceGateway.Foundation.StridedSampling
import VirtualServiceGateway.Metering.UsageMeter
import VirtualServiceGateway.Metering.UsageLedger
import VirtualServiceGateway.Metering.MeterSnapshot
import VirtualServiceGateway.Metering.PeriodRollup
import VirtualServiceGateway.Metering.RollupAgreement
import VirtualServiceGateway.Metering.SubscriberCap
import VirtualServiceGateway.Metering.ThresholdAlerts
import VirtualServiceGateway.Metering.ConcurrentUpdate
import VirtualServiceGateway.Metering.LostUpdate
import VirtualServiceGateway.Metering.UninterruptedUpdate
import VirtualServiceGateway.Metering.ConcurrentReading
import VirtualServiceGateway.Dpi.DpiClassifier
import VirtualServiceGateway.Dpi.FirstMatch
import VirtualServiceGateway.Dpi.PriorityOrder
import VirtualServiceGateway.Dpi.SignatureIds
import VirtualServiceGateway.Dpi.SignatureFile
import VirtualServiceGateway.Dpi.SignatureFormat
import VirtualServiceGateway.Dpi.BinaryPatterns
import VirtualServiceGateway.Dpi.CounterIndex
import VirtualServiceGateway.Dpi.ClassificationCounts
import VirtualServiceGateway.Dpi.DegradedMode
import VirtualServiceGateway.Dpi.SampleRate
import VirtualServiceGateway.Dpi.TimeoutDecision
import VirtualServiceGateway.Dpi.SortOutcome
import VirtualServiceGateway.Dpi.LiveUpdate
import VirtualServiceGateway.Dpi.ConcurrentClassify
import VirtualServiceGateway.Analytics.QoeCollector
import VirtualServiceGateway.Analytics.FlowCounters
import VirtualServiceGateway.Analytics.TelemetrySampling
import VirtualServiceGateway.Analytics.FlowListing
import VirtualServiceGateway.Analytics.SamplingCoverage
import VirtualServiceGateway.Analytics.ExpirySweep
import VirtualServiceGateway.Analytics.FlushAccounting
import VirtualServiceGateway.Analytics.LiveFlows
import VirtualServiceGateway.Analytics.ServiceIsolation
import VirtualServiceGateway.Analytics.ServiceTotals
import VirtualServiceGateway.Analytics.RatioSafety
import VirtualServiceGateway.Analytics.LossPercent
import VirtualServiceGateway.Analytics.KpiAttribution
import VirtualServiceGateway.Analytics.PhantomFlows
import VirtualServiceGateway.Analytics.WindowMonotonicity
import VirtualServiceGateway.Analytics.ConcurrentSnapshot
import VirtualServiceGateway.Analytics.SnapshotSafety
import VirtualServiceGateway.Analytics.ConcurrentRecording
import VirtualServiceGateway.Analytics.RecordedAmounts
import VirtualServiceGateway.Analytics.ConcurrentQuery
import VirtualServiceGateway.Dpdk.MempoolManager
import VirtualServiceGateway.Dpdk.PmdDriver
import VirtualServiceGateway.Dpdk.PortLifecycle
import VirtualServiceGateway.Dpdk.PortInitialisation
import VirtualServiceGateway.Dpdk.BatchProcessor
import VirtualServiceGateway.Dpdk.BatchSafety
import VirtualServiceGateway.Dpdk.WorkerPipeline
import VirtualServiceGateway.Dpdk.QueuePolling
import VirtualServiceGateway.Dpdk.PipelineAccounting
import VirtualServiceGateway.Dpdk.WorkerThread
import VirtualServiceGateway.Dpdk.ForwardingCores
import VirtualServiceGateway.Dpdk.ForwardingOrder
import VirtualServiceGateway.Dpdk.RingQueue
import VirtualServiceGateway.Dpdk.RingOwnership
import VirtualServiceGateway.Dpdk.PacketOwnership
import VirtualServiceGateway.Dpdk.ForwardingShutdown
import VirtualServiceGateway.Dpdk.CommandLine
import VirtualServiceGateway.Dpdk.ForwardingSetup
import VirtualServiceGateway.Dpdk.PacketLength
import VirtualServiceGateway.Dpdk.MetadataStore
import VirtualServiceGateway.Dpdk.PacketHeaders
import VirtualServiceGateway.Dpdk.BurstClassification
import VirtualServiceGateway.Dpdk.FlowHash
import VirtualServiceGateway.Dpdk.ExamplePipeline
import VirtualServiceGateway.Dpdk.ExamplePipeline
