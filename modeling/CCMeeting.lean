import CCMeeting.Lib.Transition
import CCMeeting.Lib.KeyedList
import CCMeeting.Lib.Json
import CCMeeting.Lib.Base64
import CCMeeting.Lib.Path
import CCMeeting.Protocol.Base64Text
import CCMeeting.Client.SendPipeline
import CCMeeting.Client.MessageQueue
import CCMeeting.Client.NetworkManager
import CCMeeting.Client.Requests
import CCMeeting.Client.Sessions
import CCMeeting.Client.WireStream
import CCMeeting.Client.RoundTrip
import CCMeeting.Client.RoomNumber
import CCMeeting.Client.MainPicture
import CCMeeting.Client.MentionTags
import CCMeeting.Client.MyTextEdit
import CCMeeting.Client.MeetingRecorder
import CCMeeting.Client.RtcObserver
import CCMeeting.Client.FrameCoalescing
import CCMeeting.Client.RemoteLeft
import CCMeeting.Client.Avatars
import CCMeeting.Client.AvatarCropCanvas
import CCMeeting.Client.HistoryAgreement
import CCMeeting.Client.HistoryMigration
import CCMeeting.Client.RecordingAgreement
import CCMeeting.Client.Storage
import CCMeeting.Client.SharedScreen
import CCMeeting.DataServer.AccountStore
import CCMeeting.DataServer.HttpAnswers
import CCMeeting.DataServer.AvatarUpload
import CCMeeting.DataServer.AvatarUrls
import CCMeeting.Server.Accounting
import CCMeeting.Server.Replies
import CCMeeting.Server.Framing
import CCMeeting.Server.ByteQueue
import CCMeeting.Server.WriteQueue
import CCMeeting.Server.RoomNumbers
import CCMeeting.Server.Cascade
import CCMeeting.Server.Texts
import CCMeeting.Network.Profiles
import CCMeeting.Network.Roster
import CCMeeting.Network.Settings
import CCMeeting.Network.AccountWorld
import CCMeeting.DataServer.HttpCalls
import CCMeeting.Network.SessionMirror
import CCMeeting.Network.SessionRun
import CCMeeting.Client.CameraPreview
