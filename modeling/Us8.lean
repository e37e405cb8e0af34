import Us8.Machine
import Us8.CircularBuffer
import Us8.BoundedQueue
import Us8.ClosedInterval
import Us8.Numeric
import Us8.Outcome
import Us8.DataPacket
import Us8.DataPacketWire
import Us8.DataPacketRelay
import Us8.DataPacketHeader
import Us8.TimeTesters
import Us8.DuplicateTester
import Us8.DuplicateTesterOrder
import Us8.DuplicateTesterRecord
import Us8.DuplicateTesterBuffer
import Us8.DuplicateTesterArrival
import Us8.DuplicateTesterChannels
import Us8.DuplicateTesterStream
import Us8.Sanitizer
import Us8.SanitizerThreads
import Us8.SanitizerStream
import Us8.SanitizerAccounting
import Us8.ZapService
import Us8.ZapServiceThreads
import Us8.Subscriber
import Us8.ProxyControl
import Us8.Tokens
import Us8.WhileLoop
import Us8.DuplicateTesterCapacity
import Us8.DataPacketCalls
import Us8.StreamSelector
import Us8.SEEDLinkOptions
import Us8.MiniSeed
import Us8.SEEDLinkClient
import Us8.SEEDLinkPublisher
import Us8.SubscriberCounts
import Us8.FlagJournal
import Us8.BadDataReports
import Us8.DataPacketPublisher
import Us8.WebSocketSession
import Us8.SanitizerFilter
import Us8.SanitizerGuarantees
import Us8.SanitizerShutdown
import Us8.SEEDLinkStream
import Us8.SanitizerBroadcast
import Us8.SEEDLinkLifecycle
import Us8.SEEDLinkHandles
import Us8.SEEDLinkSilence
import Us8.SEEDLinkConstruction
import Us8.ZapTraffic
import Us8.ZapAnswers
import Us8.HttpSession
import Us8.ZapOptions
import Us8.Configuration
import Us8.SEEDLinkProgram
import Us8.HttpListener
