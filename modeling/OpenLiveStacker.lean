import OpenLiveStacker.Camera
import OpenLiveStacker.Encodings
import OpenLiveStacker.CameraDriver
import OpenLiveStacker.SyncQueue
import OpenLiveStacker.OpenCV
import OpenLiveStacker.DataItems
import OpenLiveStacker.VideoGenerator.ProcessFrame
import OpenLiveStacker.VideoGenerator.Run
import OpenLiveStacker.Pipeline
import OpenLiveStacker.VideoGenerator.Outputs
import OpenLiveStacker.StackerControlApp
import OpenLiveStacker.StackerControlApp.Requests
