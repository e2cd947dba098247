import DdsProxy.ThreadPool.DBQueueWaitHandler
import DdsProxy.ThreadPool.SlotThreadPool
import DdsProxy.ThreadPool.Registration
import DdsProxy.ThreadPool.Scheduling
import DdsProxy.ThreadPool.EnableCycle
import DdsProxy.ThreadPool.Blocking
import DdsProxy.ThreadPool.Conservation
import DdsProxy.ThreadPool.Order
import DdsProxy.ThreadPool.DisableSteps
import DdsProxy.ThreadPool.DisableReturns
import DdsProxy.ThreadPool.DisableConservation
import DdsProxy.KeepAlived.ProxyKeepAlivedSubscriber
import DdsProxy.Core.DdsProxy
import DdsProxy.Yaml.YamlReaderConfiguration
import DdsProxy.Core.Reload
