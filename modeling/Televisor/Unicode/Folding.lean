import Televisor.Text.Ranges

namespace Televisor.Unicode

open Text

/-! How characters of a domain name are folded: capitals become small letters, compatibility
characters what they stand for, and some characters vanish or are not allowed. -/

/-- Runs of characters that become one character: the gap after the previous run, twice the number of
characters and one more if only every second is meant, and the distance to what they become. -/
def singleText : String := String.join [
  "41 34 40 45 2 ff 9 2 91 7 4 ff 1 2 60e 3 2 10f 0 2 95 5 2e 40 1 e 40 21 31 2 5 5 2 2 7 2 3 ",
  "9 2 2 2f 2 1 2 f1 0 7 2 1 2 217 1 2 1a4 0 5 2 1 2 19c 0 2 2 1 4 19a 0 2 2 2 2 9e 0 2 194 0 ",
  "2 196 0 2 2 1 2 19a 0 2 19e 1 2 1a6 0 2 1a2 0 2 2 3 2 1a6 0 2 1aa 1 2 1ac 0 7 2 1 2 1b4 0 2 ",
  "2 1 2 1b4 2 2 2 1 2 1b4 0 2 2 1 4 1b2 0 5 2 1 2 1b6 0 2 2 3 2 2 10 11 2 2 13 2 5 2 2 1 2 c1 ",
  "0 2 6f 0 29 2 1 2 103 1 13 2 7 2 5456 0 2 2 1 2 145 0 2 5450 2 2 2 1 2 185 0 2 8a 0 2 8e 0 ",
  "b 2 61 2 48f 0 2 95 0 2 48f 0 2 481 0 2 75 0 2 73 0 2 69 0 2 47f 0 2 47d 27 2 f9 0 2 4e9 0 ",
  "2 4dd 0 2 4d5 0 2 9d 5b 4 7f 1 2 5f 1 2 e8 2a 5 2 1 2 175 1 2 2 7 2 685 0 2 e8 6 2 4c 0 2 ",
  "59f 0 6 4a 1 2 80 1 4 7e 1 22 40 1 12 40 23 2 10 0 2 3b 0 2 31 0 2 19 0 2 b 0 2 11 0 2 1d 0 ",
  "2 2b 1 19 2 1 2 6b 0 2 5f 0 2 5d 1 2 77 0 2 7f 1 2 2 1 2 6b 0 2 2 2 6 103 0 20 a0 0 40 40 ",
  "30 23 2 9 37 2 1 2 1e 0 f 2 2 61 2 2 4c 60 9b5 2 1 193 4c 38c0 1 2 38c0 5 2 38c0 2e 2 3f ",
  "2fb c f 882 2 309b 0 2 3099 0 2 3087 0 4 3083 0 2 3085 0 2 3077 0 2 3047 0 2 11386 0 2 2 6 ",
  "56 177f 2 6 177f 6c 2 3995 0 2 388d 0 5 3997 0 2 3997 0 2 36a9 0 10 3997 1 2 3999 0 2 3633 ",
  "0 2 399b 0 2 3999 0 4 3997 0 2 3995 0 2 39c3 0 4 35e7 0 2 87 0 2 39c9 0 4 39c7 0 2 35e1 0 4 ",
  "35df 0 2 39cb 1 2 39c7 0 2 39c5 0 2 380b 0 2 39c5 0 2 35fd 0 4 7b 0 2 39cb 0 4 39c5 0 2 77 ",
  "0 2 35d5 0 2 39c9 0 2 6d 0 6 3355 0 4 3333 0 2 39f1 0 2 39e1 0 4 39dd 0 4 3367 0 2 334d 0 4 ",
  "3345 d 2 3275 22 2 3691 0 2 3a71 0 2 368f 0 2 395b 0 2 3685 0 2 3a73 0 2 3683 0 2 3681 0 2 ",
  "367b 0 6 3677 0 2 57 0 2 3615 0 2 3677 0 2 49 0 2 3617 0 2 3675 0 2 3679 0 8 3677 0 2 3673 ",
  "0 4 3661 0 2 3813 0 4 3659 0 2 137 0 4 365b 0 2 3a81 0 6 3657 0 2 340d 40 97 2 6 2 73 2 2 ",
  "3b7d 1 61 2 9 10 f 8 c f a 10 f 8 10 f 8 c f b 9 f 8 10 f 1 2 3789 1 2 378b 1 2 378d 1 2 ",
  "378f 1 2 3759 1 2 375b 1 2 375d 3a 4 f 0 2 93 0 2 381d 2 2 3809 9 2 ab 0 2 3837 0 2 ab 0 2 ",
  "3839 7 2 3885 4 4 f 0 2 c7 0 2 3857 7 2 3865 4 4 f 0 2 df 0 2 383b 0 2 d 2 2 3f1d 8 2 ff 0 ",
  "2 3859 0 2 fb 0 2 3859 4 2 3fbf 0 2 3fc1 0 2 3fc3 0 2 3fc5 0 2 3fc7 0 2 3fc9 0 2 3fcb 0 2 ",
  "3fcd 0 2 3fcf 0 2 3fd1 0 2 3fd3 6 2 1 1d 2 401d 2f 2 407d 10 2 407f 0 2 400f 2 c 407f 0 2 ",
  "409d 0 2 32e 0 2 407d 0 4 40a9 0 2 4021 0 14 409f 0 2 40bd 0 2 30e 0 2 409d 0 4 40c9 1 2 ",
  "405d 0 2 4057 0 2 4045 0 2 4035 0 2 3c75 0 2 4059 0 8 4055 0 2 4053 0 4 404f 65 2 413d 4 2 ",
  "3d57 2 4 4145 0 2 4147 0 2 4149 0 2 414b 0 2 3fcf 0 2 414d 0 2 414f 0 2 414b 0 5 414d 3 6 ",
  "4151 0 2 4153 0 2 4155 6 2 4153 1 2 3ab9 1 2 415b 1 2 417d 0 2 408b 0 4 4193 1 2 4193 0 4 ",
  "4195 0 2 38 0 2 418b 0 2 4189 0 8 36c9 0 2 419f 2 2 3af7 0 2 3b13 0 2 3b15 0 2 3afd 0 2 1a2 ",
  "4 2 41c1 0 4 41c3 0 4 41bd 16 2 41ed 3 2 41db 4 2 41e1 2 2 41ff 0 4 4213 0 2 4203 0 2 420d ",
  "3 2 41fb 4 2 4201 2 2 421f 0 4 4233 0 2 4223 3 2 2 1a5 4 19be 135 12 485d 4d 34 48a9 0 34 ",
  "48dd 0 2 4973 715 60 60 30 2 2 1 2 53ed 0 2 1dcb 0 2 53cd 2 7 2 1 2 5437 0 2 53f9 0 2 543d ",
  "0 2 543b 1 2 2 2 2 2 6 2 5823 0 2 580d 0 4 547d 0 65 2 8 5 2 4 2 2 7c 2 1b 12f 2 7a5c 53 2 ",
  "e158 c 2 3e00 0 2 3e4e 0 2 3e68 0 2 3e78 0 2 3eaa 0 2 3f00 0 2 3f0c 0 2 3f32 0 2 3f64 0 2 ",
  "446c 0 2 44b6 0 2 44c0 0 2 44ec 0 2 4512 0 2 453a 0 2 45a2 0 2 45ca 0 2 45de 0 2 4712 0 2 ",
  "47cc 0 2 4802 0 2 480a 0 2 4844 0 2 4854 0 2 4888 0 2 48a0 0 2 48d0 0 2 4936 0 2 4958 0 2 ",
  "498c 0 2 4f72 0 2 5000 0 2 5396 0 2 53c2 0 2 53d0 0 2 53e4 0 2 5406 0 2 549c 0 2 5854 0 2 ",
  "58b2 0 2 59a0 0 2 59cc 0 2 59f0 0 2 5a1a 0 2 5a84 0 2 5a88 0 2 5d5a 0 2 5d6c 0 2 5d82 0 2 ",
  "5d9a 0 2 5e80 0 2 5e8e 0 2 5e96 0 2 5f7e 0 2 5f90 0 2 5fa8 0 2 5fb6 0 2 602e 0 2 604e 0 2 ",
  "6070 0 2 610e 0 2 6596 0 2 65f0 0 2 6618 0 2 6bde 0 2 6be6 0 2 6c8a 0 2 6ca8 0 2 6cc0 0 2 ",
  "6ce8 0 2 6d34 0 2 6d3c 0 2 6f50 0 2 6f7e 0 2 6fbc 0 2 77aa 0 2 782c 0 2 7858 0 2 78ca 0 2 ",
  "78f8 0 2 7908 0 2 7914 0 2 797a 0 2 7982 0 2 79c0 0 2 822c 0 2 85a8 0 2 85be 0 2 85c6 0 2 ",
  "85cc 0 2 85da 0 2 85fc 0 2 85fe 0 2 869e 0 2 884c 0 2 8854 0 2 8af8 0 2 8b0a 0 2 8b6c 0 2 ",
  "8b78 0 2 8b88 0 2 8b96 0 2 8c4a 0 2 8c56 0 2 8e1c 0 2 8e28 0 2 8e88 0 2 8ea8 0 2 8f04 0 2 ",
  "90dc 0 2 90e8 0 2 9108 0 2 9394 0 2 948e 0 2 9498 0 2 9602 0 2 96ae 0 2 9708 0 2 99fa 0 2 ",
  "9b02 0 2 9f7c 0 2 9fb0 0 2 a020 0 2 a084 0 2 a10a 0 2 a11e 0 2 a128 0 2 a168 0 2 a1fe 0 2 ",
  "a210 0 2 a4c2 0 2 a4ce 0 2 a4de 0 2 a4ee 0 2 a50c 0 2 a528 0 2 a52e 0 2 a5ca 0 2 a5d0 0 2 ",
  "a5da 0 2 ad82 0 2 adbc 0 2 b164 0 2 b17a 0 2 b1a6 0 2 b3da 0 2 b3f2 0 2 b47e 0 2 b4d8 0 2 ",
  "b944 0 2 b960 0 2 b97c 0 2 b9c0 0 2 ba08 0 2 bb94 0 2 bbaa 0 2 bc2e 0 2 be1c 0 2 be58 0 2 ",
  "bff8 0 2 c020 0 2 c028 0 2 c1de 0 2 c34c 0 2 c444 0 2 c44e 0 2 c456 0 2 cba0 0 2 cbb0 0 2 ",
  "cce6 0 2 ce18 0 2 ce1c 0 2 ce78 0 2 cf48 0 2 cf60 0 2 cf66 0 2 cf72 0 2 d034 0 2 d076 0 2 ",
  "d080 0 2 d09a 0 2 d1e6 0 2 d24a 0 2 d250 0 2 d3bc 0 2 d3c0 0 2 d3e4 0 2 d5da 0 2 d638 0 2 ",
  "d644 0 2 d6ce 0 2 d6e0 0 2 d6e4 0 2 d6f6 0 2 d730 0 2 da44 0 2 dd62 0 2 dd74 0 2 ddbe 0 2 ",
  "dde8 0 2 ddf6 0 2 de08 0 2 de0e 0 2 de5c 0 2 de62 0 2 de82 0 2 de8a 0 2 dea2 0 2 ded6 0 2 ",
  "def2 0 2 df00 0 2 df74 0 2 df90 0 2 df96 2a 2 5fbf 1 2 5fa7 33 2 47 1 2 4612 0 4 4616 f6 4 ",
  "4061 0 2 3f11 0 2 4063 0 4 3f11 0 6 4067 0 c 3f13 0 2 404b 0 6 4075 0 2 4045 0 14 4077 0 2a ",
  "3fdb 1 4 40a1 0 4 3f3f 0 2 3f39 0 2 3f37 0 2 3f2f 0 2 3f29 0 2 3f27 0 2 40a3 0 2 3f23 0 2 ",
  "3f21 0 4 40a7 0 2 40a5 0 4 40a3 0 2 409d 0 2 409b 0 a 4099 0 2 4095 0 2 408f 0 2 407d 0 2 ",
  "4071 0 2 4069 0 4 3f21 0 6 4059 0 4 4005 0 2 4001 0 4 3ff1 0 2 3fef 0 2 3fdd 0 2 3fd9 3 2 ",
  "38dc 0 2 39f2 0 2 38ea 0 2 4a8c 0 2 38e8 0 2 392c 0 2 38e6 0 2 8732 0 2 397e 0 2 38fc 0 2 ",
  "38ca 0 2 4f18 0 2 4b24 0 2 3a36 a4 2 4616 0 2 586e 0 2 6682 0 2 9290 18 2 42bf 0 4 42bd 0 6 ",
  "42bb 0 2 42b9 0 4 42b7 0 a 42b5 0 2 f324 0 2 fc52 0 2 100e8 0 2 10a16 0 2 10eac 0 2 11342 0 ",
  "2 11c70 0 2 1259e 0 2 12a34 0 2 13362 0 2 137f8 0 2 13c8e 0 2 14124 0 2 145ba 2 2 12864 1 2 ",
  "3700 0 2 3816 0 2 370e 0 2 48b0 0 2 3820 0 2 3dd0 0 2 36fa 0 2 3dc8 0 2 37aa 0 2 4170 0 2 ",
  "68fc 0 2 7bc0 0 2 7350 0 2 6936 0 2 be86 0 2 4920 0 2 66aa 0 2 6b32 0 2 68ee 0 2 8d56 0 2 ",
  "42f2 0 2 7fc8 0 2 b416 0 2 8d8c 0 2 4038 0 2 8e7e 0 2 853a 0 2 4db0 0 2 bb9a 0 2 3d1a 0 2 ",
  "41a4 0 2 7492 0 2 caca 0 2 38e0 0 2 3dee 0 2 7180 0 2 36cc 0 2 3710 0 2 36ca 0 2 567e 0 2 ",
  "4296 0 2 4124 0 2 51da 0 2 5176 0 2 886e 0 2 38a8 0 2 b432 0 2 414a 0 2 4cd8 1f 2 45b 0 2 ",
  "459 0 2 457 0 2 455 0 4 453 0 2 451 0 2 44f 0 2 44d 0 2 44b 0 2 449 0 2 447 0 2 445 0 2 443 ",
  "0 2 441 0 2 43f 0 2 43d 0 2 439 0 2 437 0 2 435 0 c 433 0 2 42f 0 2 42b 0 2 427 0 2 423 0 a ",
  "41f 0 2 41d 0 2 41b 0 c 419 0 8 417 7341 2f 2 13 1d 2 1 2 144a3 0 2 144a1 84 f 2 3 3f 2 1 2 ",
  "1 8 5 2 1 2 11407 0 b 2 4 2 2 1 2 14a4f 2 5 2 3 15 2 1 2 14a87 0 2 14a9d 0 2 14a95 0 2 ",
  "14a81 0 2 14a87 1 2 14a23 0 2 14a53 0 2 14a29 0 2 740 0 11 2 1 2 5f 0 2 14a85 0 2 1146f 0 5 ",
  "2 1 2 14acd 0 11 2 1 2 14c81 14 2 14efb 0 2 14f1d 0 2 14f19 0 2 14f05 0 2 2 2 2 14da1 0 2 ",
  "14d4b 362 2 869 0 2 4b 0 2 151e5 0 2 19 9 2 151b7 6 a0 12f9f 4d40 2 d96f 0 2 12419 0 2 d46f ",
  "0 2 d875 0 2 11465 0 2 155a5 0 2 14a41 0 2 b2d5 0 2 b2d7 0 2 13f6f 0 2 ce71 0 2 14707 0 2 ",
  "13f87 0 2 12e2d 0 2 10549 0 2 f313 0 2 e5a1 0 2 e2ad 0 2 e033 0 2 d107 0 2 11e23 0 2 117f3 ",
  "0 2 11079 0 2 10a71 0 2 e9b5 0 2 cf5d 0 2 be51 0 2 15531 0 2 14b4d 0 2 11c31 0 2 10e05 0 2 ",
  "e5e3 0 2 b603 0 2 137a1 0 2 1126d 0 2 e6ab 0 2 df7f 0 2 12cb7 0 2 ee9b 0 2 e20f 0 2 134bb 0 ",
  "2 12423 0 2 1177f 0 2 10c5d 0 2 d0bb 0 2 1534d 0 2 14eed 0 2 14ca1 0 2 128d7 0 2 11cbb 0 2 ",
  "10e43 0 2 10497 0 2 f265 0 2 e65d 0 2 e5b3 0 2 d68f 0 2 c40b 0 2 bb93 0 2 b67f 0 2 1015d 0 ",
  "2 ff79 0 2 f739 0 2 eae9 0 2 cc75 0 2 b581 0 2 dcd5 0 2 140c5 0 2 1347d 0 2 f9c7 0 2 f18d 0 ",
  "2 10dc7 0 2 100f9 0 2 d90b 0 2 c4a3 0 2 140e3 0 2 139d1 0 2 11e71 0 2 116e5 0 2 1147d 0 2 ",
  "f83f 0 2 f631 0 2 c60b 0 2 14cff 0 2 f18f 0 2 14eef 0 2 14f11 0 2 fe73 0 2 f731 0 2 eacd 0 ",
  "2 c5c7 0 2 dbb3 0 2 12d17 0 2 11eb3 0 2 dcbd 0 2 15649 0 2 13aef 0 2 1329b 0 2 10bb3 0 2 ",
  "107e3 0 2 14c97 0 2 100d1 0 2 1534b 0 2 13379 0 2 156b3 0 2 11937 0 2 127e1 0 2 f88f 0 2 ",
  "14b4f 0 2 1421b 0 2 104d7 0 2 ea49 0 2 dd89 0 2 11b6b 0 2 d381 0 2 119d3 0 2 12ce9 0 2 ed1d ",
  "0 2 12ba9 0 2 10821 0 2 15591 0 2 1501d 0 2 14f5f 0 2 121f1 0 2 f927 0 2 ee19 0 2 dd55 0 2 ",
  "cf5d 0 2 14d13 0 2 14a7b 0 2 1401b 0 2 1352b 0 2 1277b 0 2 1130b 0 2 100b5 0 2 c7b1 0 2 ",
  "be39 0 2 b5e1 0 2 b575 0 2 14ddd 0 2 12589 0 2 11c29 0 2 d455 0 2 13633 0 2 12ffd 0 2 12f1f ",
  "0 2 129ed 0 2 114dd 0 2 11093 0 2 10a15 0 2 ff95 0 2 f743 0 2 f24f 0 2 d4e3 0 2 e955 0 2 ",
  "d2ed 0 2 cca1 0 2 14f09 0 2 14df3 0 2 149c1 0 2 111ad 0 2 e1bb 0 2 dded 0 2 135b1 0 2 1335b ",
  "0 2 12c51 0 2 11bed 0 2 facf 0 2 10c63 0 2 15587 0 2 1455f 0 2 13b85 0 2 137e1 0 2 1331f 0 ",
  "2 10bf5 0 2 10a89 0 2 f429 0 2 f2d3 0 2 cef9 0 2 c577 0 2 c4d5 0 2 c337 0 2 15453 0 2 1000f ",
  "0 2 d005 0 2 c5ff 0 2 131af 0 2 15667 0 2 151c1 0 2 13b9b 0 2 13afb 0 2 12849 0 2 11f79 0 2 ",
  "10fe3 0 2 106fd 0 2 e98b 0 2 d28d 0 2 b46d 0 2 12679 0 2 c72f 0 2 14e7b 0 2 12499 0 2 123ab ",
  "0 2 11911 0 2 1165d 0 2 10b85 0 2 108e7 0 2 102c5 0 2 f97d 0 2 c2e3 0 2 150c7 0 2 12f47 0 2 ",
  "c6b5 0 2 15351 0 2 13977 0 2 117d7 0 2 d559 0 2 13499 0 2 13129 0 2 12385 0 2 10ca7 0 2 ",
  "c6ab 0 2 14f67 0 2 14b9d 0 2 13af3 0 2 12799 0 2 12525 0 2 12273 0 2 119fb 0 2 10bbb 0 2 ",
  "10805 0 2 f4d9 0 2 e22f 0 2 e20d 0 2 d039 0 2 c60f 0 2 14d57 0 2 11663 0 2 14b9f 0 2 1103b ",
  "0 2 10aad 0 2 e7eb 0 2 c69b 0 2 bb35 0 2 b6a7 0 2 124b9 0 2 11853 0 2 f01b 0 2 fe57 0 2 ",
  "fdaf 0 2 facd 0 2 10e73 0 2 112c3 0 2 dd47 0 2 15679 0 2 ed8f 0 2 14f89 0 2 14ff1 0 2 136b5 ",
  "0 2 12e5d 0 2 fa59 0 2 13cfd 0 2 119cd 0 2 126a3 0 2 d597 0 2 e377 0 2 c777 0 2 e0fd 0 2 ",
  "1366f 0 2 15197 0 2 14899 2 2 1436b 1 2 1273b 2 2 1506d 0 2 10dd7 0 2 10699 0 2 101b7 0 2 ",
  "10175 0 2 10169 0 2 10117 0 2 c58b 0 2 fabd 0 2 f4c1 1 2 e81b 1 2 de53 2 2 d3d9 0 2 d251 3 ",
  "2 c275 0 2 c25d 0 2 c207 0 2 b8f1 0 2 d29f 0 2 c6ef 0 2 15503 0 2 15293 0 2 151c9 0 2 14ed3 ",
  "0 2 14e9f 0 2 14dc7 0 2 14931 0 2 14861 0 2 1479f 0 2 143f1 0 2 14323 0 2 13bad 0 2 13b9b 0 ",
  "2 13351 0 2 131ab 0 2 13161 0 2 1309b 0 2 129e3 0 2 128bf 0 2 12763 0 2 1237d 0 2 1199b 0 2 ",
  "11857 0 2 11649 0 2 111b3 0 2 1103b 0 2 10c4f 0 2 10373 0 2 1021b 0 2 10207 0 2 1020b 0 2 ",
  "101fd 0 2 101f3 0 2 101e7 0 4 10189 0 2 10027 0 2 ffa7 0 2 fd2b 0 2 f8c5 0 2 f89d 0 2 f82f ",
  "0 2 f5cf 0 2 f4ab 0 2 f0dd 0 2 efc7 0 2 efc9 0 2 ec0f 0 2 e29f 0 2 e195 0 2 dec1 0 2 de53 0 ",
  "2 db21 0 2 dab9 0 2 d55f 0 2 d45d 0 2 c709 0 2 c4d3 0 2 c45d 0 2 133eb 0 2 29104 0 2 f0a9 2 ",
  "2 15893 0 2 15177 0 2 15213 0 2 155e5 0 2 1525d 0 2 151e9 0 2 14f5d 0 2 14ef9 0 2 149b5 0 2 ",
  "14a47 0 2 149c1 0 2 14931 0 2 14443 0 2 14393 0 2 14273 0 2 14255 0 2 1403b 0 2 13eb1 0 2 ",
  "1375f 0 2 13753 0 2 13635 0 2 135af 0 2 1335b 0 2 13271 0 2 132ff 0 2 131f5 0 2 13253 0 2 ",
  "13131 0 2 130af 0 2 12d91 0 2 12ce3 0 2 12c79 0 2 12a73 0 2 12839 0 2 126f5 0 2 126ef 0 2 ",
  "1267b 0 2 11e37 0 2 11db7 0 2 11aab 0 2 11779 0 2 1179b 0 2 116ef 0 2 114f9 0 2 1125b 0 2 ",
  "105eb 0 2 110d1 0 2 10fdf 0 2 10eeb 0 2 10c5f 0 2 10b37 0 2 10acf 0 2 1090d 0 2 1090b 0 2 ",
  "107b7 0 2 10797 0 2 10767 0 2 106bd 0 2 106d3 0 2 103bd 0 2 fff5 0 2 fdd9 0 2 fc65 0 2 faa7 ",
  "0 2 f977 0 2 f6e5 0 2 f559 0 2 eec1 0 2 ed89 0 2 e677 0 2 e2e9 0 2 e261 0 2 e243 0 2 dff3 0 ",
  "2 df83 0 2 dfdf 0 2 df75 0 2 df7d 0 2 dfa1 0 2 df0b 0 2 de6b 0 2 db71 0 2 d713 0 2 d4a1 0 2 ",
  "d255 0 2 d09d 0 2 c893 0 2 c7c7 0 2 c6e3 0 2 c5db 0 2 c595 0 2 c57f 0 2 c521 0 2 bf75 0 2 ",
  "b663 0 2 25af6 0 2 25ae8 0 2 27208 0 2 17e69 0 2 17575 0 2 17535 0 2 2aee8 0 2 2c3f4 0 2 ",
  "307f8 0 2 b729 0 2 b695 46 2 1ea7b 0 2 1eaa1 0 4 1ea9d 0 6 1ea91 0 2 1ea7d 0 2 1ea7b 0 2 ",
  "1f5fb 26 2 1e9bd 0 2 1e9bf 0 2 1e9ad 0 2 1e9af 0 2 1e9b1 0 2 1e9b3 0 2 1e9af 0 2 1e9b1 0 2 ",
  "1e9b3 0 2 1e9b5 0 2 1e9b3 0 2 1e9b5 0 2 1e9b7 0 2 1e9b9 0 2 1e9c7 0 2 1e9c9 0 2 1e9cb 0 2 ",
  "1e9cd 0 2 1e9c5 0 2 1e9c7 0 2 1e9c9 0 2 1e9cb 0 2 1e9d9 0 2 1e9db 0 2 1e9dd 0 2 1e9df 0 2 ",
  "1e98b 0 2 1e98d 0 2 1e98f 0 2 1e991 0 2 1e98f 0 2 1e991 0 2 1e993 0 2 1e995 0 2 1e9db 0 2 ",
  "1e9dd 0 2 1e9df 0 2 1e9e1 0 2 1e9e5 0 2 1e9e7 0 2 1e9e9 0 2 1e9eb 0 2 1e9e7 0 2 1e9e9 0 2 ",
  "1e9eb 0 4 1e9ed 0 2 1e9ef 0 2 1e9f1 0 2 1e9f3 0 2 1e9e9 0 2 1e9eb 0 2 1e9ef 0 2 1e9f1 0 2 ",
  "1e9ef 0 2 1e9f1 0 2 1e9ff 0 2 1ea01 0 2 1e9e3 0 2 1e9e5 0 2 1e9f5 0 2 1e9f7 0 2 1e9c9 0 2 ",
  "1e9cb 0 2 1e9cd 0 2 1e9cf 0 2 1e9c5 0 2 1e9c7 0 2 1e9c9 0 2 1e9cb 0 2 1e9c5 0 2 1e9c7 0 2 ",
  "1e9c9 0 2 1e9cb 0 2 1e9d1 0 2 1e9d3 0 2 1e9d5 0 2 1e9d7 0 2 1e9c7 0 4 1e9c9 0 2 1e9cb 0 2 ",
  "1e9cd 0 2 1e9cf 0 2 1e9c7 0 4 1e9c9 0 2 1e9cb 0 2 1e9cd 0 2 1e9cf 0 2 1e9d7 0 2 1e9d9 0 2 ",
  "1e9db 0 2 1e9dd 0 2 1e9b7 0 4 1e9b9 0 2 1e9bb 21 2 1ea4b 0 2 1ea4d 0 2 1ea4f 0 2 1ea51 0 2 ",
  "1ea1f 0 2 1ea21 0 2 1ea25 0 2 1ea27 0 2 1ea25 0 2 1ea27 1 2 1ea25 0 2 1ea27 0 2 1ea35 0 2 ",
  "1ea37 0 2 1ea31 0 2 1ea33 0 2 1ea27 0 2 1ea29 0 2 1ea2b 0 2 1ea2d 0 2 1eb3d 0 2 1eb3f 12 2 ",
  "1ea5f 0 2 1ea61 0 2 1ea63 0 2 1ea65 210 2 1fbc7 0 2 19c1f 1 4 1fbb1 0 2 1fbe7 0 2 1fbad 0 4 ",
  "19c01 18 2 1bc39 0 2 1bc3d 0 2 1fba7 0 2 1fba9 0 4 1fc19 0 2 1fb77 0 2 1fb75 0 4 19c49 0 4 ",
  "19c55 0 4 19c65 0 4 19c6d 0 8 19c69 2 2 1fbd7 0 2 1fbd5 4 2 1fbdb 0 2 1fbdd 0 2 1fbdf 0 2 ",
  "1fc47 0 2 19c9f 2 2 1fc31 0 2 1fc35 0 2 1fc2d 0 2 1fc6b 0 2 1bc87 0 4 1fc61 0 2 1fbbf 0 2 ",
  "1fbbd 0 4 19c91 0 2 1fc77 0 2 1fc73 0 4 1fc6d 0 2 1fc6b 0 2 1fc4f 0 2 1fc4d 0 2 1fc51 1 2 ",
  "1fc17 0 4 1fc89 0 2 1fc55 14 4 1f0bd 0 4 1f0bf 0 4 1f0c1 0 4 1f0c3 0 4 1f0c5 0 2 1f0c7 0 2 ",
  "1f0c9 0 4 1f0cb 0 4 1f0cd 0 2 1f0cf 0 2 1f0d1 0 4 1f0d3 0 4 1f0d5 0 2 1f0d7 0 2 1f0d9 0 4 ",
  "1f0db 0 2 1f0dd 0 2 1f0df 0 4 1f0e1 0 2 1f0e3 0 2 1f0e5 0 4 1f0e7 0 2 1f0e9 0 2 1f0eb 0 4 ",
  "1f0ed 0 2 1f0ef 0 2 1f0f1 0 4 1f0f3 0 4 1f0f5 0 4 1f0f7 0 4 1f0f9 0 4 1f0fb 0 2 1f0fd 0 2 ",
  "1f0ff 0 4 1f101 0 2 1f103 0 2 1f105 0 4 1f107 0 2 1f109 0 2 1f10b 0 4 1f10d 0 2 1f10f 0 2 ",
  "1f111 0 4 1f113 0 2 1f115 0 2 1f117 0 4 1f119 0 2 1f11b 0 2 1f11d 0 4 1f11f 0 2 1f121 0 2 ",
  "1f123 0 4 1f125 0 2 1f127 0 2 1f129 0 2 1f12b 0 2 1f11f 0 2 1f121 0 2 1f123 0 4 1f125 0 2 ",
  "1f127 0 2 1f129 0 4 1f12b 0 2 1f12d 0 2 1f12f 0 4 1f131 0 2 1f133 0 2 1f135 0 4 1f137 0 2 ",
  "1f139 0 2 1f13b 0 4 1f13d 0 2 1f13f 0 2 1f141 0 4 1f143 0 2 1f145 0 2 1f147 0 4 1f149 0 4 ",
  "1f14b 0 4 1f14d 0 2 1f14f 0 2 1f151 0 2 1f153 c 40 1fdbf 0 34 1fd7f 0 48 1fdbf 0 4 1abb3 0 ",
  "2 1fe65 0 4 19eab 0 2 19ec5 0 2 19cd3 0 2 19ce7 0 2 19d8b 0 2 19d89 0 2 19d87 0 2 19d85 0 2 ",
  "19d83 0 2 19d11 0 2 19d0f 0 2 19d0d 0 2 19d57 0 2 19ce7 0 2 19d9d 0 2 19d9b 0 2 19d99 0 2 ",
  "19d97 0 4 19d95 0 2 19d93 0 2 19d91 0 2 19d8f 0 2 19d8d 0 2 19d8b 0 2 19d89 0 2 19d87 0 2 ",
  "19d85 0 2 19d83 0 2 19d81 0 2 19d7f 0 2 19d7b 0 2 19d79 0 2 19d77 0 c 19d75 0 2 19d71 0 2 ",
  "19d6d 0 2 19d69 0 2 19d65 0 a 19d61 0 2 19d5f 0 2 19d5d 0 c 19d5b 0 2 19d59 0 2 19d53 0 4 ",
  "19e09 1 4 1dd41 0 2 1dbf1 0 2 1dd43 0 4 1dbf1 0 6 1dd47 0 c 1dbf3 0 2 1dd2b 0 6 1dd55 0 2 ",
  "1dd25 0 14 1dd57 3 c 1dcc1 2 c 1dcc5 2 c 1dcc9 2 6 1dccd 3 4 1fe7b 0 2 1fe6b 1 2 1fe7b 0 2 ",
  "1fe7f 0 2 1be79 1 2 1b5cb 0 8 1bcb1 0 2 1b499 0 2 1b445 411 50 50 88 48 50 9c 16 4e 1 1e 4e ",
  "1 e 4e 1 4 4e 1eb 4 20961 0 2 20d39 0 2 209d5 0 2 20a63 1 2 209c7 0 2 b843 0 2 209c7 0 2 ",
  "209cb 0 4 20a69 0 2 1d3f7 0 2 20a6b 0 2 20a61 0 2 209cd 0 2 20a59 0 2 20a5f 0 2 20a65 0 2 ",
  "209f1 0 2 20cdb 0 2 209f3 0 2 20a5f 0 2 20a27 0 4 209dd 0 2 20a5d 0 2 1aed0 0 2 c01d 0 2 ",
  "20a5f 0 2 1aecc 0 2 20a23 0 2 1aeca 0 2 20d53 0 4 20a59 0 2 20e67 0 2 20a57 0 2 1aec2 0 4 ",
  "20a55 0 2 20a53 0 2 20a05 0 2 20a0b 0 2 b88b 0 2 20a0d 0 2 20a4d 0 2 1b67d 1 2 20a45 0 4 ",
  "20a23 0 2 20a39 0 6 20beb 0 2 1aea2 0 2 1aec8 4c5 66 80 9d 2c 40 b3a 40 40 5580 40 40 40 32 ",
  "36 5e1d 34 398e9 0 14 3997f 706 34 3a73d 0 34 3a771 0 34 3a7a5 0 e 3a7d9 1 24 3a7d9 0 34 ",
  "3a80d 0 34 3a841 0 5 3a875 0 2 3a875 2 2 3a875 2 4 3a875 2 8 3a875 1 10 3a875 0 8 3a8a9 1 5 ",
  "3a8a9 0 c 3a8a9 1 16 3a8a9 0 34 3a8dd 0 34 3a911 0 4 3a945 1 8 3a945 2 10 3a945 1 e 3a945 1 ",
  "34 3a979 0 4 3a9ad 1 8 3a9ad 1 a 3a9ad 1 2 3a9ad 3 e 3a9ad 1 34 3a9e1 0 34 3aa15 0 34 3aa49 ",
  "0 34 3aa7d 0 34 3aab1 0 34 3aae5 0 34 3ab19 0 34 3ab4d 0 34 3ab81 0 34 3abb5 0 34 3abe9 0 ",
  "34 3ac1d 0 34 3ac51 0 2 3aae5 0 2 3a8db 2 22 3a5ed 0 2 3a601 0 e 3a5ed 0 2 36973 0 22 3a621 ",
  "0 2 3a61f 0 e 3a621 0 2 369b1 0 2 3a64d 0 2 3a649 0 2 3a647 0 2 3a631 0 2 3a63d 0 2 3a641 0 ",
  "22 3a661 0 2 3a675 0 e 3a661 0 2 369e7 0 22 3a695 0 2 3a693 0 e 3a695 0 2 36a25 0 2 3a6c1 0 ",
  "2 3a6bd 0 2 3a6bb 0 2 3a6a5 0 2 3a6b1 0 2 3a6b5 0 22 3a6d5 0 2 3a6e9 0 e 3a6d5 0 2 36a5b 0 ",
  "22 3a709 0 2 3a707 0 e 3a709 0 2 36a99 0 2 3a735 0 2 3a731 0 2 3a72f 0 2 3a719 0 2 3a725 0 ",
  "2 3a729 0 22 3a749 0 2 3a75d 0 e 3a749 0 2 36acf 0 22 3a77d 0 2 3a77b 0 e 3a77d 0 2 36b0d 0 ",
  "2 3a7a9 0 2 3a7a5 0 2 3a7a3 0 2 3a78d 0 2 3a799 0 2 3a79d 0 22 3a7bd 0 2 3a7d1 0 e 3a7bd 0 ",
  "2 36b43 0 22 3a7f1 0 2 3a7ef 0 e 3a7f1 0 2 36b81 0 2 3a81d 0 2 3a819 0 2 3a817 0 2 3a801 0 ",
  "2 3a80d 0 2 3a811 0 2 3a7d9 0 2 3a7db 2 14 3af3b 0 14 3af4f 0 14 3af63 0 14 3af77 0 14 ",
  "3af8b 830 12 3b7ff 0 6 3b7fd 0 16 3b7fb 0 2 3b7f7 0 4 3b7f5 0 2 27381 0 2 3b6e3 0 2 3b7eb 0 ",
  "2 3b7e9 0 2 3b6c9 0 2 3b73f 0 2 3b701 0 12 3b841 0 4 3b83f 0 4 3b83b 0 2 3b839 0 c 3b837 0 ",
  "4 3b835 0 2 3b7ab 0 2 3b823 0 2 3b827 0 2 3b815 0 2 3b77f 0 2 27435 0 2 3b777 892 44 44 4de ",
  "4 3cfb1 0 2 3cfab 0 2 3cfa7 1 2 3cf79 0 2 3cfa7 0 2 3cfb3 0 2 3cfa1 0 2 3cf7d 0 8 3cf8d 0 2 ",
  "3cfb5 0 2 3cfab 0 2 3cf9d 0 2 3cfb7 0 2 3cf9f 0 2 3cfc3 0 2 3cfbf 0 4 3cfd5 0 2 3cfd1 0 2 ",
  "3cfcf 0 2 3cfc5 0 2 3cfc3 0 2 3cfc1 0 2 3cf5b 0 2 3cec5 0 2 3cef9 0 2 3cf5f 1 2 3cff1 0 2 ",
  "3cfeb 1 2 3cfb9 2 2 3cff3 1 2 3cfbd 0 8 3cfcd 0 2 3cff5 0 2 3cfeb 0 2 3cfdd 0 2 3cff7 0 2 ",
  "3cfdf 1 2 3cfff 0 4 3d015 0 2 3d011 1 2 3d005 1 2 3d001 6 2 3d02b 4 2 3d033 1 2 3cffd 1 5 ",
  "3d00d 0 2 3d035 0 2 3d02b 1 2 3d037 0 2 3d01f 1 2 3d03f 2 2 3d051 1 2 3d045 1 2 3d041 1 2 ",
  "3cf45 1 2 3cfdf 1 2 3d071 0 2 3d06b 1 2 3d039 2 2 3d073 0 2 3d061 0 2 3d03d 0 5 3d04d 0 2 ",
  "3d04d 0 2 3d075 0 2 3d06b 0 2 3d05d 0 2 3d077 0 2 3d05f 1 2 3d07f 0 4 3d095 0 2 3d091 1 2 ",
  "3d085 0 2 3d083 0 2 3d081 0 2 3d01b 1 2 3cfb9 1 4 3d0b1 0 2 3d0ab 0 2 3d0a7 0 4 3d079 0 2 ",
  "3d0a7 0 2 3d0b3 0 2 3d0a1 0 2 3d07d 1 6 3d08d 0 2 3d0b5 0 2 3d0ab 0 2 3d09d 0 2 3d0b7 0 2 ",
  "3d09f 0 2 3d0c3 0 2 3d0bf 0 4 3d0d5 0 2 3d0d1 0 2 3d0cf 0 2 3d0c5 0 2 3d0c3 0 2 3d0c1 5 2 ",
  "3d0f1 0 2 3d0eb 0 2 3d0e7 1 2 3d0b9 0 2 3d0e7 0 2 3d0f3 0 2 3d0e1 0 2 3d0bd 1 6 3d0cd 0 2 ",
  "3d0f5 0 2 3d0eb 0 2 3d0dd 0 2 3d0f7 0 2 3d0df 0 2 3d103 0 2 3d0ff 0 4 3d115 0 2 3d111 0 2 ",
  "3d10f 0 2 3d105 0 2 3d103 0 2 3d101 26f 2 3e18f 0 2 3e173 3 34 3e19d b8 2 38299 d 2 31f89 0 ",
  "2 32d73 0 2 33c8b 0 2 38297 0 2 3470f 0 2 331f5 0 2 2d065 0 2 331db 0 2 346e7 0 2 317f1 0 2 ",
  "301f1 0 2 31903 0 2 33f9d 0 2 32521 0 2 34121 0 2 318dd 0 2 34005 0 2 2e9bd 0 2 2fa05 0 2 ",
  "2caf3 0 2 33267 0 2 33bd7 0 2 30623 0 2 31f23 0 2 31da5 0 2 34851 0 2 34841 0 2 2c3c1 0 2 ",
  "3288b 0 2 347ff 0 2 33c75 0 2 31e4f 0 2 2c97f 0 2 31fbb 0 2 2f161 0 2 2ef71 0 2 33c57 0 2 ",
  "30769 0 2 31659 0 2 3165d 0 2 2fa09 0 2 33f8d 0 2 33907 0 2 2c1db 14 2 32571 0 2 33cc3 99e ",
  "14 3f77f fc06 2 55385 0 2 55391 0 2 55381 0 2 1edc1 0 2 55147 0 2 550ad 0 2 55095 0 2 55009 ",
  "0 2 54f1b 0 2 54edf 0 2 54e45 0 2 54e77 0 2 586db 0 2 1e3a5 0 2 54d81 0 2 54d75 0 2 54d57 0 ",
  "2 54d33 0 2 1e5eb 0 2 586b3 0 2 54d59 0 2 54d0f 0 2 1e595 0 2 54cff 0 2 54ce7 0 2 55299 0 2 ",
  "54cdb 0 2 54ccb 0 2 cc79 0 2 54c4f 0 2 54c35 0 2 5867f 0 2 54bc9 0 2 54bb5 0 2 54b5f 0 2 ",
  "54b57 0 2 5861d 0 2 54abb 0 2 54ab9 0 2 54a85 0 2 54a5b 0 4 54a47 0 2 54a27 0 2 549c5 0 2 ",
  "549b7 0 2 549a7 0 2 54977 0 2 54965 0 2 54963 0 2 54965 0 2 54967 0 2 1dc0f 0 2 50f89 0 2 ",
  "548d7 0 2 548af 0 2 1d9a9 0 2 5489b 0 2 54891 0 2 54869 0 2 5473b 0 2 54809 0 2 547eb 0 2 ",
  "547ad 0 2 5473b 0 2 54695 0 2 54663 0 2 545df 0 2 545c1 0 2 54581 0 2 54583 0 2 5455b 0 2 ",
  "54539 0 2 5452b 0 2 5450f 0 2 54269 0 2 5448b 0 2 5426b 0 2 543f9 0 2 543b5 0 2 54c91 0 2 ",
  "53ec5 0 2 54107 0 2 540bd 0 2 5408d 0 2 54193 0 2 54047 0 2 5404b 0 2 53f57 0 2 1c6e9 0 2 ",
  "53ecf 0 2 53ec7 0 2 53eab 0 2 53e85 0 2 53e77 0 2 53df9 0 2 1c36f 0 2 1c2ed 0 2 53ceb 0 2 ",
  "53c8f 0 2 53c79 0 2 53d19 0 2 53bff 0 2 582f1 0 2 582d7 0 2 53ac1 0 2 53a57 0 2 53a59 0 2 ",
  "1bd47 0 2 53953 0 2 5392b 0 2 5390f 0 2 538f9 0 2 1bab1 0 2 538e5 0 2 538d9 0 2 53241 0 2 ",
  "538a5 0 2 581e9 0 2 5382d 0 2 53813 0 2 53771 0 2 537d9 0 2 1b52d 0 2 53671 0 2 1b52d 0 2 ",
  "5361f 0 2 53627 0 2 53607 0 4 5353f 0 2 580a7 0 2 5350d 0 2 534b9 0 2 53491 0 2 5343b 0 2 ",
  "5804b 0 2 1ae0b 0 2 5801b 0 2 533b5 0 2 533b1 0 2 533ad 0 2 53387 0 2 a9f9 0 2 53323 0 2 ",
  "1aabf 0 2 1aac1 0 2 4ed23 0 2 532e3 0 2 532e5 0 2 57f9d 0 2 18bbd 0 2 12d7b 0 2 5326d 0 2 ",
  "5325d 0 2 57f6f 0 2 53203 0 2 5319f 0 2 5318d 0 2 5314b 0 2 5303d 0 2 57ecd 0 2 57f0b 0 2 ",
  "5301d 0 2 1a39f 0 2 52fbb 0 2 52ebb 0 2 52eb5 0 2 52eb3 0 2 52eb9 0 2 52e5f 0 2 52e39 0 2 ",
  "52df3 0 2 52e11 0 2 52dfd 0 2 52da1 0 2 52d7b 0 2 52d75 0 2 52d43 0 2 52d2f 0 2 52cad 0 2 ",
  "52c07 0 2 52bc3 0 2 52acd 0 2 19b57 0 2 52af7 0 2 52b7b 0 2 52aa5 0 2 52a71 0 2 529b1 0 2 ",
  "19999 0 2 52939 0 2 529f5 0 2 52a2f 0 2 57d27 0 2 528b3 0 2 5288b 0 2 5284f 0 2 5289d 0 2 ",
  "57cb5 0 2 526f1 0 2 526b9 0 2 1917f 0 2 525cf 0 2 523a7 0 2 52507 0 2 57b69 0 2 5247b 0 2 ",
  "57b8f 0 2 57bd9 0 2 54e7f 0 2 54e7b 0 2 523a7 0 2 52471 0 2 4f051 0 2 569fb 0 2 52381 0 2 ",
  "5237b 0 2 52371 0 2 522f9 0 2 52311 0 2 18a33 0 2 57b29 0 2 521c9 0 2 522b5 0 2 5211d 0 2 ",
  "520b9 0 2 188eb 0 2 520ab 0 2 5218b 0 2 51fa3 0 2 57a93 0 2 51f4b 0 2 51e8b 0 2 51dff 0 2 ",
  "51c85 0 2 18491 0 2 51c23 0 2 579ab 0 2 51b9b 0 2 18091 0 2 51b39 0 2 57947 0 2 51b01 0 2 ",
  "51aa9 0 4 51a75 0 2 17cd3 0 2 1b7d9 0 2 17bfd 0 2 51957 0 2 1787d 0 2 51879 0 2 5185f 0 2 ",
  "5192d 0 2 517d1 0 2 51783 0 2 51713 0 2 51781 0 2 51733 0 2 51717 0 2 516ff 0 2 177cf 0 2 ",
  "517a5 0 2 515b1 0 2 51535 0 2 577ad 0 2 5147f 0 2 51489 0 2 17477 0 2 51629 0 2 51341 0 2 ",
  "17363 0 2 17305 0 2 51297 0 2 511b3 0 2 511eb 0 2 511f3 0 2 576ff 0 2 51199 0 2 51135 0 2 ",
  "51143 0 2 510d9 0 2 1e7eb 0 2 50fad 0 2 16d73 0 2 50f03 0 2 16ae7 0 2 50def 0 2 50dd7 0 2 ",
  "50da3 0 2 16635 0 2 50d47 0 2 50d1f 0 2 163e1 0 2 16225 0 2 50b5b 0 2 50b3b 0 2 574fb 0 2 ",
  "50b0b 0 2 574e7 0 2 574e9 0 2 509cd 0 2 509a5 0 2 5097d 0 2 50957 0 2 508cf 0 2 5742f 0 2 ",
  "5081f 0 2 159fd 0 2 507ef 0 2 15949 0 2 5078f 0 2 1af33 0 2 50653 0 2 15333 0 2 15307 0 2 ",
  "151f1 0 2 57283 0 2 5726d 0 2 50497 0 2 1509b 0 2 1509f 0 2 15053 0 2 15021 0 4 5044d 0 2 ",
  "5044f 0 2 503fb 0 2 5721f 0 2 5037d 0 2 57209 0 2 5716b 0 2 14a5f 0 2 501ff 0 2 50185 0 2 ",
  "50107 0 2 570db 0 2 14657 0 2 4fff9 0 2 14573 0 2 1451f 0 2 4ff8d 0 2 4fed7 0 2 57051 0 2 ",
  "4fe31 0 2 4fe1f 0 2 4fe17 0 2 13fbf 0 2 13d6b 0 2 13d6d 0 2 4fce1 0 2 56ebb 0 2 13b6b 0 2 ",
  "4fb37 0 2 4fb33 0 2 56e79 0 2 139c9 0 2 4f927 0 2 56d8d 0 2 4f8ff 0 2 4f90b 0 2 4f8d3 0 2 ",
  "133c9 0 2 4f811 0 2 56cd7 0 2 4f74d 0 2 4f6d9 0 2 4f655 0 2 56c79 0 2 12e93 0 2 12e57 0 2 ",
  "56c35 0 2 12d37 0 2 4f3f7 0 2 12c71 0 2 4f3c5 0 2 4f2fd 0 2 4f2e9 0 2 12941 0 2 128b1 0 2 ",
  "4f239 0 2 127ab 0 2 4f21d 0 2 18c41 0 2 56b57 0 2 4f19f 0 2 4f0ff 0 2 56af1 0 2 4f08d 0 2 ",
  "53da1 0 2 123bf 0 2 123a5 0 2 18beb 0 2 18bdb 0 2 4ef13 0 2 4ef0f 0 2 4d3dd 0 2 56a45 0 2 ",
  "4edfb 0 2 4ee09 0 2 4ede7 0 2 54dbd 0 2 4edc3 0 2 4edc1 0 2 4edaf 0 2 4ed5f 0 2 11cb5 0 2 ",
  "4ed65 0 2 4ecf7 0 2 4ec6d 0 2 4ebdb 0 2 4ecf1 0 2 4ebbf 0 2 4eb6d 0 2 4ea8f 0 2 4ec99 0 2 ",
  "4ebad 0 2 4ebab 0 2 4eb8d 0 2 11adb 0 2 11873 0 2 119a1 0 2 568f7 0 2 4e96d 0 2 4e96b 0 2 ",
  "4e927 0 2 10bc1 0 2 4e88f 0 2 11501 0 2 568a1 0 2 5689b 0 2 113fd 0 2 111bd 0 2 5688d 0 2 ",
  "4e6c5 0 2 4e6af 0 2 4e69b 0 2 4e699 0 2 4e61b 0 2 4e65f 0 2 4e555 0 2 4e5af 0 2 4e483 0 2 ",
  "4e527 0 2 4e4a3 0 2 4e46f 0 2 567cf 0 2 4e3bd 0 2 4e37f 0 2 56791 0 2 4e2c5 0 2 4e2c1 0 2 ",
  "106bb 0 2 4e1dd 0 2 4e1d1 0 2 56725 0 2 4e19d 0 2 58a1d 0 2 10239 0 2 100cb 0 2 5661d 0 2 ",
  "5660d 0 2 4de5d 0 2 4ddc5 0 2 4dc8d 0 2 4daf9 0 2 fa55 0 2 4da51 0 2 4da27 0 2 4d975 0 2 ",
  "4d8bf 0 2 f551 0 2 1e3a9 0 2 4d81d 0 2 4d83d 0 2 4d7d7 0 2 1e1fd 0 2 4d613 0 2 4d54d 0 2 ",
  "e81b 0 2 e7e7 0 2 4d29b 0 2 4d1e3 0 2 4d1a5 0 2 e56d 0 2 4d195 0 2 4cf5d 0 4 4ce21 0 2 ",
  "4cedb 0 2 4cbe3 0 2 4cbad 0 2 dbe5 0 2 4c8c5 0 2 560b3 0 2 4c871 0 2 d8f3 0 2 56017 0 2 ",
  "4c65f 0 2 53883 0 2 4c5a3 0 2 d161 0 2 cfb9 0 2 55f13 0 2 55f05 0 2 4c433 0 2 cbe1 0 2 ",
  "55e93 0 2 cacd 0 2 4c3e5 0 2 4c3e7 0 2 4c3ad 0 2 c895 0 2 4c23f 0 2 55d9f 0 2 4c1b5 0 2 ",
  "4c0bb 0 2 4c087 0 2 4c011 0 2 55c73 0 2 bdb1 0 2 4bdef 0 2 4bb95 0 2 4ba1d 0 2 55a7d 0 2 ",
  "55a41 0 2 4b94f 0 2 b283 0 2 55a31 0 2 b219 0 2 b009 0 2 af05 0 2 4b6b3 0 2 5597f 0 2 4b63b ",
  "0 2 4b633 0 2 4b627 0 2 4b615 0 2 4b609 0 2 4b5c1 0 2 a839"]

/-- Characters that become several: the gap after the previous one, their number, and what they are. -/
def severalText : String := String.join [
  "a8 2 20 308 6 2 20 304 4 2 20 301 3 2 20 327 3 3 31 2044 34 0 3 31 2044 32 0 3 33 2044 34 ",
  "71 2 69 307 1 2 69 6a 0 2 69 6a b 2 6c b7 0 2 6c b7 8 2 2bc 6e 7a 2 64 17e 0 2 64 17e 0 2 ",
  "64 17e 0 2 6c 6a 0 2 6c 6a 0 2 6c 6a 0 2 6e 6a 0 2 6e 6a 0 2 6e 6a 24 2 64 7a 0 2 64 7a 0 2 ",
  "64 7a e4 2 20 306 0 2 20 307 0 2 20 30a 0 2 20 328 0 2 20 303 0 2 20 30b 66 2 308 301 35 2 ",
  "20 3b9 9 2 20 301 0 3 20 308 301 201 2 565 582 ed 2 627 674 0 2 648 674 0 2 6c7 674 0 2 64a ",
  "674 2df 2 915 93c 0 2 916 93c 0 2 917 93c 0 2 91c 93c 0 2 921 93c 0 2 922 93c 0 2 92b 93c 0 ",
  "2 92f 93c 7c 2 9a1 9bc 0 2 9a2 9bc 1 2 9af 9bc 53 2 a32 a3c 2 2 a38 a3c 22 2 a16 a3c 0 2 ",
  "a17 a3c 0 2 a1c a3c 2 2 a2b a3c fd 2 b21 b3c 0 2 b22 b3c 2d5 2 e4d e32 7f 2 ecd eb2 28 2 ",
  "eab e99 0 2 eab ea1 65 2 f42 fb7 9 2 f4c fb7 4 2 f51 fb7 4 2 f56 fb7 4 2 f5b fb7 c 2 f40 ",
  "fb5 9 2 f71 f72 1 2 f71 f74 0 2 fb2 f80 0 3 fb2 f71 f80 0 2 fb3 f80 0 3 fb3 f71 f80 7 2 f71 ",
  "f80 11 2 f92 fb7 9 2 f9c fb7 4 2 fa1 fb7 4 2 fa6 fb7 4 2 fab fb7 c 2 f90 fb5 ee0 2 61 2be ",
  "e5 2 1f00 3b9 0 2 1f01 3b9 0 2 1f02 3b9 0 2 1f03 3b9 0 2 1f04 3b9 0 2 1f05 3b9 0 2 1f06 3b9 ",
  "0 2 1f07 3b9 0 2 1f00 3b9 0 2 1f01 3b9 0 2 1f02 3b9 0 2 1f03 3b9 0 2 1f04 3b9 0 2 1f05 3b9 ",
  "0 2 1f06 3b9 0 2 1f07 3b9 0 2 1f20 3b9 0 2 1f21 3b9 0 2 1f22 3b9 0 2 1f23 3b9 0 2 1f24 3b9 ",
  "0 2 1f25 3b9 0 2 1f26 3b9 0 2 1f27 3b9 0 2 1f20 3b9 0 2 1f21 3b9 0 2 1f22 3b9 0 2 1f23 3b9 ",
  "0 2 1f24 3b9 0 2 1f25 3b9 0 2 1f26 3b9 0 2 1f27 3b9 0 2 1f60 3b9 0 2 1f61 3b9 0 2 1f62 3b9 ",
  "0 2 1f63 3b9 0 2 1f64 3b9 0 2 1f65 3b9 0 2 1f66 3b9 0 2 1f67 3b9 0 2 1f60 3b9 0 2 1f61 3b9 ",
  "0 2 1f62 3b9 0 2 1f63 3b9 0 2 1f64 3b9 0 2 1f65 3b9 0 2 1f66 3b9 0 2 1f67 3b9 2 2 1f70 3b9 ",
  "0 2 3b1 3b9 0 2 3ac 3b9 2 2 1fb6 3b9 4 2 3b1 3b9 0 2 20 313 1 2 20 313 0 2 20 342 0 3 20 ",
  "308 342 0 2 1f74 3b9 0 2 3b7 3b9 0 2 3ae 3b9 2 2 1fc6 3b9 4 2 3b7 3b9 0 3 20 313 300 0 3 20 ",
  "313 301 0 3 20 313 342 d 3 20 314 300 0 3 20 314 301 0 3 20 314 342 d 3 20 308 300 0 3 20 ",
  "308 301 3 2 1f7c 3b9 0 2 3c9 3b9 0 2 3ce 3b9 2 2 1ff6 3b9 4 2 3c9 3b9 0 2 20 301 0 2 20 314 ",
  "18 2 20 333 1b 2 2032 2032 0 3 2032 2032 2032 1 2 2035 2035 0 3 2035 2035 2035 4 2 21 21 1 ",
  "2 20 305 8 2 3f 3f 0 2 3f 21 0 2 21 3f d 4 2032 2032 2032 2032 50 2 72 73 57 3 61 2f 63 0 3 ",
  "61 2f 73 1 2 b0 63 1 3 63 2f 6f 0 3 63 2f 75 2 2 b0 66 c 2 6e 6f 9 2 73 6d 0 3 74 65 6c 0 2 ",
  "74 6d 18 3 66 61 78 14 3 31 2044 37 0 3 31 2044 39 0 4 31 2044 31 30 0 3 31 2044 33 0 3 32 ",
  "2044 33 0 3 31 2044 35 0 3 32 2044 35 0 3 33 2044 35 0 3 34 2044 35 0 3 31 2044 36 0 3 35 ",
  "2044 36 0 3 31 2044 38 0 3 33 2044 38 0 3 35 2044 38 0 3 37 2044 38 0 2 31 2044 1 2 69 69 0 ",
  "3 69 69 69 0 2 69 76 1 2 76 69 0 3 76 69 69 0 4 76 69 69 69 0 2 69 78 1 2 78 69 0 3 78 69 ",
  "69 5 2 69 69 0 3 69 69 69 0 2 69 76 1 2 76 69 0 3 76 69 69 0 4 76 69 69 69 0 2 69 78 1 2 78 ",
  "69 0 3 78 69 69 d 3 30 2044 33 a2 2 222b 222b 0 3 222b 222b 222b 1 2 222e 222e 0 3 222e ",
  "222e 222e 238 2 31 30 0 2 31 31 0 2 31 32 0 2 31 33 0 2 31 34 0 2 31 35 0 2 31 36 0 2 31 37 ",
  "0 2 31 38 0 2 31 39 0 2 32 30 0 3 28 31 29 0 3 28 32 29 0 3 28 33 29 0 3 28 34 29 0 3 28 35 ",
  "29 0 3 28 36 29 0 3 28 37 29 0 3 28 38 29 0 3 28 39 29 0 4 28 31 30 29 0 4 28 31 31 29 0 4 ",
  "28 31 32 29 0 4 28 31 33 29 0 4 28 31 34 29 0 4 28 31 35 29 0 4 28 31 36 29 0 4 28 31 37 29 ",
  "0 4 28 31 38 29 0 4 28 31 39 29 0 4 28 32 30 29 14 3 28 61 29 0 3 28 62 29 0 3 28 63 29 0 3 ",
  "28 64 29 0 3 28 65 29 0 3 28 66 29 0 3 28 67 29 0 3 28 68 29 0 3 28 69 29 0 3 28 6a 29 0 3 ",
  "28 6b 29 0 3 28 6c 29 0 3 28 6d 29 0 3 28 6e 29 0 3 28 6f 29 0 3 28 70 29 0 3 28 71 29 0 3 ",
  "28 72 29 0 3 28 73 29 0 3 28 74 29 0 3 28 75 29 0 3 28 76 29 0 3 28 77 29 0 3 28 78 29 0 3 ",
  "28 79 29 0 3 28 7a 29 556 4 222b 222b 222b 222b 67 3 3a 3a 3d 0 2 3d 3d 0 3 3d 3d 3d 65 2 ",
  "2add 338 5be 2 20 3099 0 2 20 309a 2 2 3088 308a 5f 2 30b3 30c8 100 3 28 1100 29 0 3 28 ",
  "1102 29 0 3 28 1103 29 0 3 28 1105 29 0 3 28 1106 29 0 3 28 1107 29 0 3 28 1109 29 0 3 28 ",
  "110b 29 0 3 28 110c 29 0 3 28 110e 29 0 3 28 110f 29 0 3 28 1110 29 0 3 28 1111 29 0 3 28 ",
  "1112 29 0 3 28 ac00 29 0 3 28 b098 29 0 3 28 b2e4 29 0 3 28 b77c 29 0 3 28 b9c8 29 0 3 28 ",
  "bc14 29 0 3 28 c0ac 29 0 3 28 c544 29 0 3 28 c790 29 0 3 28 cc28 29 0 3 28 ce74 29 0 3 28 ",
  "d0c0 29 0 3 28 d30c 29 0 3 28 d558 29 0 3 28 c8fc 29 0 4 28 c624 c804 29 0 4 28 c624 d6c4 ",
  "29 1 3 28 4e00 29 0 3 28 4e8c 29 0 3 28 4e09 29 0 3 28 56db 29 0 3 28 4e94 29 0 3 28 516d ",
  "29 0 3 28 4e03 29 0 3 28 516b 29 0 3 28 4e5d 29 0 3 28 5341 29 0 3 28 6708 29 0 3 28 706b ",
  "29 0 3 28 6c34 29 0 3 28 6728 29 0 3 28 91d1 29 0 3 28 571f 29 0 3 28 65e5 29 0 3 28 682a ",
  "29 0 3 28 6709 29 0 3 28 793e 29 0 3 28 540d 29 0 3 28 7279 29 0 3 28 8ca1 29 0 3 28 795d ",
  "29 0 3 28 52b4 29 0 3 28 4ee3 29 0 3 28 547c 29 0 3 28 5b66 29 0 3 28 76e3 29 0 3 28 4f01 ",
  "29 0 3 28 8cc7 29 0 3 28 5354 29 0 3 28 796d 29 0 3 28 4f11 29 0 3 28 81ea 29 0 3 28 81f3 ",
  "29 c 3 70 74 65 0 2 32 31 0 2 32 32 0 2 32 33 0 2 32 34 0 2 32 35 0 2 32 36 0 2 32 37 0 2 ",
  "32 38 0 2 32 39 0 2 33 30 0 2 33 31 0 2 33 32 0 2 33 33 0 2 33 34 0 2 33 35 1c 2 cc38 ace0 ",
  "0 2 c8fc c758 33 2 33 36 0 2 33 37 0 2 33 38 0 2 33 39 0 2 34 30 0 2 34 31 0 2 34 32 0 2 34 ",
  "33 0 2 34 34 0 2 34 35 0 2 34 36 0 2 34 37 0 2 34 38 0 2 34 39 0 2 35 30 0 2 31 6708 0 2 32 ",
  "6708 0 2 33 6708 0 2 34 6708 0 2 35 6708 0 2 36 6708 0 2 37 6708 0 2 38 6708 0 2 39 6708 0 ",
  "3 31 30 6708 0 3 31 31 6708 0 3 31 32 6708 0 2 68 67 0 3 65 72 67 0 2 65 76 0 3 6c 74 64 2f ",
  "2 4ee4 548c 0 4 30a2 30d1 30fc 30c8 0 4 30a2 30eb 30d5 30a1 0 4 30a2 30f3 30da 30a2 0 3 ",
  "30a2 30fc 30eb 0 4 30a4 30cb 30f3 30b0 0 3 30a4 30f3 30c1 0 3 30a6 30a9 30f3 0 5 30a8 30b9 ",
  "30af 30fc 30c9 0 4 30a8 30fc 30ab 30fc 0 3 30aa 30f3 30b9 0 3 30aa 30fc 30e0 0 3 30ab 30a4 ",
  "30ea 0 4 30ab 30e9 30c3 30c8 0 4 30ab 30ed 30ea 30fc 0 3 30ac 30ed 30f3 0 3 30ac 30f3 30de ",
  "0 2 30ae 30ac 0 3 30ae 30cb 30fc 0 4 30ad 30e5 30ea 30fc 0 4 30ae 30eb 30c0 30fc 0 2 30ad ",
  "30ed 0 5 30ad 30ed 30b0 30e9 30e0 0 6 30ad 30ed 30e1 30fc 30c8 30eb 0 5 30ad 30ed 30ef 30c3 ",
  "30c8 0 3 30b0 30e9 30e0 0 5 30b0 30e9 30e0 30c8 30f3 0 5 30af 30eb 30bc 30a4 30ed 0 4 30af ",
  "30ed 30fc 30cd 0 3 30b1 30fc 30b9 0 3 30b3 30eb 30ca 0 3 30b3 30fc 30dd 0 4 30b5 30a4 30af ",
  "30eb 0 5 30b5 30f3 30c1 30fc 30e0 0 4 30b7 30ea 30f3 30b0 0 3 30bb 30f3 30c1 0 3 30bb 30f3 ",
  "30c8 0 3 30c0 30fc 30b9 0 2 30c7 30b7 0 2 30c9 30eb 0 2 30c8 30f3 0 2 30ca 30ce 0 3 30ce ",
  "30c3 30c8 0 3 30cf 30a4 30c4 0 5 30d1 30fc 30bb 30f3 30c8 0 3 30d1 30fc 30c4 0 4 30d0 30fc ",
  "30ec 30eb 0 5 30d4 30a2 30b9 30c8 30eb 0 3 30d4 30af 30eb 0 2 30d4 30b3 0 2 30d3 30eb 0 5 ",
  "30d5 30a1 30e9 30c3 30c9 0 4 30d5 30a3 30fc 30c8 0 5 30d6 30c3 30b7 30a7 30eb 0 3 30d5 30e9 ",
  "30f3 0 5 30d8 30af 30bf 30fc 30eb 0 2 30da 30bd 0 3 30da 30cb 30d2 0 3 30d8 30eb 30c4 0 3 ",
  "30da 30f3 30b9 0 3 30da 30fc 30b8 0 3 30d9 30fc 30bf 0 4 30dd 30a4 30f3 30c8 0 3 30dc 30eb ",
  "30c8 0 2 30db 30f3 0 3 30dd 30f3 30c9 0 3 30db 30fc 30eb 0 3 30db 30fc 30f3 0 4 30de 30a4 ",
  "30af 30ed 0 3 30de 30a4 30eb 0 3 30de 30c3 30cf 0 3 30de 30eb 30af 0 5 30de 30f3 30b7 30e7 ",
  "30f3 0 4 30df 30af 30ed 30f3 0 2 30df 30ea 0 5 30df 30ea 30d0 30fc 30eb 0 2 30e1 30ac 0 4 ",
  "30e1 30ac 30c8 30f3 0 4 30e1 30fc 30c8 30eb 0 3 30e4 30fc 30c9 0 3 30e4 30fc 30eb 0 3 30e6 ",
  "30a2 30f3 0 4 30ea 30c3 30c8 30eb 0 2 30ea 30e9 0 3 30eb 30d4 30fc 0 4 30eb 30fc 30d6 30eb ",
  "0 2 30ec 30e0 0 5 30ec 30f3 30c8 30b2 30f3 0 3 30ef 30c3 30c8 0 2 30 70b9 0 2 31 70b9 0 2 ",
  "32 70b9 0 2 33 70b9 0 2 34 70b9 0 2 35 70b9 0 2 36 70b9 0 2 37 70b9 0 2 38 70b9 0 2 39 70b9 ",
  "0 3 31 30 70b9 0 3 31 31 70b9 0 3 31 32 70b9 0 3 31 33 70b9 0 3 31 34 70b9 0 3 31 35 70b9 0 ",
  "3 31 36 70b9 0 3 31 37 70b9 0 3 31 38 70b9 0 3 31 39 70b9 0 3 32 30 70b9 0 3 32 31 70b9 0 3 ",
  "32 32 70b9 0 3 32 33 70b9 0 3 32 34 70b9 0 3 68 70 61 0 2 64 61 0 2 61 75 0 3 62 61 72 0 2 ",
  "6f 76 0 2 70 63 0 2 64 6d 0 3 64 6d 32 0 3 64 6d 33 0 2 69 75 0 2 5e73 6210 0 2 662d 548c 0 ",
  "2 5927 6b63 0 2 660e 6cbb 0 4 682a 5f0f 4f1a 793e 0 2 70 61 0 2 6e 61 0 2 3bc 61 0 2 6d 61 ",
  "0 2 6b 61 0 2 6b 62 0 2 6d 62 0 2 67 62 0 3 63 61 6c 0 4 6b 63 61 6c 0 2 70 66 0 2 6e 66 0 ",
  "2 3bc 66 0 2 3bc 67 0 2 6d 67 0 2 6b 67 0 2 68 7a 0 3 6b 68 7a 0 3 6d 68 7a 0 3 67 68 7a 0 ",
  "3 74 68 7a 0 2 3bc 6c 0 2 6d 6c 0 2 64 6c 0 2 6b 6c 0 2 66 6d 0 2 6e 6d 0 2 3bc 6d 0 2 6d ",
  "6d 0 2 63 6d 0 2 6b 6d 0 3 6d 6d 32 0 3 63 6d 32 0 2 6d 32 0 3 6b 6d 32 0 3 6d 6d 33 0 3 63 ",
  "6d 33 0 2 6d 33 0 3 6b 6d 33 0 3 6d 2215 73 0 4 6d 2215 73 32 0 2 70 61 0 3 6b 70 61 0 3 6d ",
  "70 61 0 3 67 70 61 0 3 72 61 64 0 5 72 61 64 2215 73 0 6 72 61 64 2215 73 32 0 2 70 73 0 2 ",
  "6e 73 0 2 3bc 73 0 2 6d 73 0 2 70 76 0 2 6e 76 0 2 3bc 76 0 2 6d 76 0 2 6b 76 0 2 6d 76 0 2 ",
  "70 77 0 2 6e 77 0 2 3bc 77 0 2 6d 77 0 2 6b 77 0 2 6d 77 0 2 6b 3c9 0 2 6d 3c9 1 2 62 71 0 ",
  "2 63 63 0 2 63 64 0 4 63 2215 6b 67 1 2 64 62 0 2 67 79 0 2 68 61 0 2 68 70 0 2 69 6e 0 2 ",
  "6b 6b 0 2 6b 6d 0 2 6b 74 0 2 6c 6d 0 2 6c 6e 0 3 6c 6f 67 0 2 6c 78 0 2 6d 62 0 3 6d 69 6c ",
  "0 3 6d 6f 6c 0 2 70 68 1 3 70 70 6d 0 2 70 72 0 2 73 72 0 2 73 76 0 2 77 62 0 3 76 2215 6d ",
  "0 3 61 2215 6d 0 2 31 65e5 0 2 32 65e5 0 2 33 65e5 0 2 34 65e5 0 2 35 65e5 0 2 36 65e5 0 2 ",
  "37 65e5 0 2 38 65e5 0 2 39 65e5 0 3 31 30 65e5 0 3 31 31 65e5 0 3 31 32 65e5 0 3 31 33 65e5 ",
  "0 3 31 34 65e5 0 3 31 35 65e5 0 3 31 36 65e5 0 3 31 37 65e5 0 3 31 38 65e5 0 3 31 39 65e5 0 ",
  "3 32 30 65e5 0 3 32 31 65e5 0 3 32 32 65e5 0 3 32 33 65e5 0 3 32 34 65e5 0 3 32 35 65e5 0 3 ",
  "32 36 65e5 0 3 32 37 65e5 0 3 32 38 65e5 0 3 32 39 65e5 0 3 33 30 65e5 0 3 33 31 65e5 0 3 ",
  "67 61 6c c700 2 66 66 0 2 66 69 0 2 66 6c 0 3 66 66 69 0 3 66 66 6c 0 2 73 74 0 2 73 74 c 2 ",
  "574 576 0 2 574 565 0 2 574 56b 0 2 57e 576 0 2 574 56d 5 2 5d9 5b4 1 2 5f2 5b7 a 2 5e9 5c1 ",
  "0 2 5e9 5c2 0 3 5e9 5bc 5c1 0 3 5e9 5bc 5c2 0 2 5d0 5b7 0 2 5d0 5b8 0 2 5d0 5bc 0 2 5d1 5bc ",
  "0 2 5d2 5bc 0 2 5d3 5bc 0 2 5d4 5bc 0 2 5d5 5bc 0 2 5d6 5bc 1 2 5d8 5bc 0 2 5d9 5bc 0 2 5da ",
  "5bc 0 2 5db 5bc 0 2 5dc 5bc 1 2 5de 5bc 1 2 5e0 5bc 0 2 5e1 5bc 1 2 5e3 5bc 0 2 5e4 5bc 1 2 ",
  "5e6 5bc 0 2 5e7 5bc 0 2 5e8 5bc 0 2 5e9 5bc 0 2 5ea 5bc 0 2 5d5 5b9 0 2 5d1 5bf 0 2 5db 5bf ",
  "0 2 5e4 5bf 0 2 5d0 5dc 8d 2 6c7 674 c 2 626 627 0 2 626 627 0 2 626 6d5 0 2 626 6d5 0 2 ",
  "626 648 0 2 626 648 0 2 626 6c7 0 2 626 6c7 0 2 626 6c6 0 2 626 6c6 0 2 626 6c8 0 2 626 6c8 ",
  "0 2 626 6d0 0 2 626 6d0 0 2 626 6d0 0 2 626 649 0 2 626 649 0 2 626 649 4 2 626 62c 0 2 626 ",
  "62d 0 2 626 645 0 2 626 649 0 2 626 64a 0 2 628 62c 0 2 628 62d 0 2 628 62e 0 2 628 645 0 2 ",
  "628 649 0 2 628 64a 0 2 62a 62c 0 2 62a 62d 0 2 62a 62e 0 2 62a 645 0 2 62a 649 0 2 62a 64a ",
  "0 2 62b 62c 0 2 62b 645 0 2 62b 649 0 2 62b 64a 0 2 62c 62d 0 2 62c 645 0 2 62d 62c 0 2 62d ",
  "645 0 2 62e 62c 0 2 62e 62d 0 2 62e 645 0 2 633 62c 0 2 633 62d 0 2 633 62e 0 2 633 645 0 2 ",
  "635 62d 0 2 635 645 0 2 636 62c 0 2 636 62d 0 2 636 62e 0 2 636 645 0 2 637 62d 0 2 637 645 ",
  "0 2 638 645 0 2 639 62c 0 2 639 645 0 2 63a 62c 0 2 63a 645 0 2 641 62c 0 2 641 62d 0 2 641 ",
  "62e 0 2 641 645 0 2 641 649 0 2 641 64a 0 2 642 62d 0 2 642 645 0 2 642 649 0 2 642 64a 0 2 ",
  "643 627 0 2 643 62c 0 2 643 62d 0 2 643 62e 0 2 643 644 0 2 643 645 0 2 643 649 0 2 643 64a ",
  "0 2 644 62c 0 2 644 62d 0 2 644 62e 0 2 644 645 0 2 644 649 0 2 644 64a 0 2 645 62c 0 2 645 ",
  "62d 0 2 645 62e 0 2 645 645 0 2 645 649 0 2 645 64a 0 2 646 62c 0 2 646 62d 0 2 646 62e 0 2 ",
  "646 645 0 2 646 649 0 2 646 64a 0 2 647 62c 0 2 647 645 0 2 647 649 0 2 647 64a 0 2 64a 62c ",
  "0 2 64a 62d 0 2 64a 62e 0 2 64a 645 0 2 64a 649 0 2 64a 64a 0 2 630 670 0 2 631 670 0 2 649 ",
  "670 0 3 20 64c 651 0 3 20 64d 651 0 3 20 64e 651 0 3 20 64f 651 0 3 20 650 651 0 3 20 651 ",
  "670 0 2 626 631 0 2 626 632 0 2 626 645 0 2 626 646 0 2 626 649 0 2 626 64a 0 2 628 631 0 2 ",
  "628 632 0 2 628 645 0 2 628 646 0 2 628 649 0 2 628 64a 0 2 62a 631 0 2 62a 632 0 2 62a 645 ",
  "0 2 62a 646 0 2 62a 649 0 2 62a 64a 0 2 62b 631 0 2 62b 632 0 2 62b 645 0 2 62b 646 0 2 62b ",
  "649 0 2 62b 64a 0 2 641 649 0 2 641 64a 0 2 642 649 0 2 642 64a 0 2 643 627 0 2 643 644 0 2 ",
  "643 645 0 2 643 649 0 2 643 64a 0 2 644 645 0 2 644 649 0 2 644 64a 0 2 645 627 0 2 645 645 ",
  "0 2 646 631 0 2 646 632 0 2 646 645 0 2 646 646 0 2 646 649 0 2 646 64a 0 2 649 670 0 2 64a ",
  "631 0 2 64a 632 0 2 64a 645 0 2 64a 646 0 2 64a 649 0 2 64a 64a 0 2 626 62c 0 2 626 62d 0 2 ",
  "626 62e 0 2 626 645 0 2 626 647 0 2 628 62c 0 2 628 62d 0 2 628 62e 0 2 628 645 0 2 628 647 ",
  "0 2 62a 62c 0 2 62a 62d 0 2 62a 62e 0 2 62a 645 0 2 62a 647 0 2 62b 645 0 2 62c 62d 0 2 62c ",
  "645 0 2 62d 62c 0 2 62d 645 0 2 62e 62c 0 2 62e 645 0 2 633 62c 0 2 633 62d 0 2 633 62e 0 2 ",
  "633 645 0 2 635 62d 0 2 635 62e 0 2 635 645 0 2 636 62c 0 2 636 62d 0 2 636 62e 0 2 636 645 ",
  "0 2 637 62d 0 2 638 645 0 2 639 62c 0 2 639 645 0 2 63a 62c 0 2 63a 645 0 2 641 62c 0 2 641 ",
  "62d 0 2 641 62e 0 2 641 645 0 2 642 62d 0 2 642 645 0 2 643 62c 0 2 643 62d 0 2 643 62e 0 2 ",
  "643 644 0 2 643 645 0 2 644 62c 0 2 644 62d 0 2 644 62e 0 2 644 645 0 2 644 647 0 2 645 62c ",
  "0 2 645 62d 0 2 645 62e 0 2 645 645 0 2 646 62c 0 2 646 62d 0 2 646 62e 0 2 646 645 0 2 646 ",
  "647 0 2 647 62c 0 2 647 645 0 2 647 670 0 2 64a 62c 0 2 64a 62d 0 2 64a 62e 0 2 64a 645 0 2 ",
  "64a 647 0 2 626 645 0 2 626 647 0 2 628 645 0 2 628 647 0 2 62a 645 0 2 62a 647 0 2 62b 645 ",
  "0 2 62b 647 0 2 633 645 0 2 633 647 0 2 634 645 0 2 634 647 0 2 643 644 0 2 643 645 0 2 644 ",
  "645 0 2 646 645 0 2 646 647 0 2 64a 645 0 2 64a 647 0 3 640 64e 651 0 3 640 64f 651 0 3 640 ",
  "650 651 0 2 637 649 0 2 637 64a 0 2 639 649 0 2 639 64a 0 2 63a 649 0 2 63a 64a 0 2 633 649 ",
  "0 2 633 64a 0 2 634 649 0 2 634 64a 0 2 62d 649 0 2 62d 64a 0 2 62c 649 0 2 62c 64a 0 2 62e ",
  "649 0 2 62e 64a 0 2 635 649 0 2 635 64a 0 2 636 649 0 2 636 64a 0 2 634 62c 0 2 634 62d 0 2 ",
  "634 62e 0 2 634 645 0 2 634 631 0 2 633 631 0 2 635 631 0 2 636 631 0 2 637 649 0 2 637 64a ",
  "0 2 639 649 0 2 639 64a 0 2 63a 649 0 2 63a 64a 0 2 633 649 0 2 633 64a 0 2 634 649 0 2 634 ",
  "64a 0 2 62d 649 0 2 62d 64a 0 2 62c 649 0 2 62c 64a 0 2 62e 649 0 2 62e 64a 0 2 635 649 0 2 ",
  "635 64a 0 2 636 649 0 2 636 64a 0 2 634 62c 0 2 634 62d 0 2 634 62e 0 2 634 645 0 2 634 631 ",
  "0 2 633 631 0 2 635 631 0 2 636 631 0 2 634 62c 0 2 634 62d 0 2 634 62e 0 2 634 645 0 2 633 ",
  "647 0 2 634 647 0 2 637 645 0 2 633 62c 0 2 633 62d 0 2 633 62e 0 2 634 62c 0 2 634 62d 0 2 ",
  "634 62e 0 2 637 645 0 2 638 645 0 2 627 64b 0 2 627 64b 12 3 62a 62c 645 0 3 62a 62d 62c 0 ",
  "3 62a 62d 62c 0 3 62a 62d 645 0 3 62a 62e 645 0 3 62a 645 62c 0 3 62a 645 62d 0 3 62a 645 ",
  "62e 0 3 62c 645 62d 0 3 62c 645 62d 0 3 62d 645 64a 0 3 62d 645 649 0 3 633 62d 62c 0 3 633 ",
  "62c 62d 0 3 633 62c 649 0 3 633 645 62d 0 3 633 645 62d 0 3 633 645 62c 0 3 633 645 645 0 3 ",
  "633 645 645 0 3 635 62d 62d 0 3 635 62d 62d 0 3 635 645 645 0 3 634 62d 645 0 3 634 62d 645 ",
  "0 3 634 62c 64a 0 3 634 645 62e 0 3 634 645 62e 0 3 634 645 645 0 3 634 645 645 0 3 636 62d ",
  "649 0 3 636 62e 645 0 3 636 62e 645 0 3 637 645 62d 0 3 637 645 62d 0 3 637 645 645 0 3 637 ",
  "645 64a 0 3 639 62c 645 0 3 639 645 645 0 3 639 645 645 0 3 639 645 649 0 3 63a 645 645 0 3 ",
  "63a 645 64a 0 3 63a 645 649 0 3 641 62e 645 0 3 641 62e 645 0 3 642 645 62d 0 3 642 645 645 ",
  "0 3 644 62d 645 0 3 644 62d 64a 0 3 644 62d 649 0 3 644 62c 62c 0 3 644 62c 62c 0 3 644 62e ",
  "645 0 3 644 62e 645 0 3 644 645 62d 0 3 644 645 62d 0 3 645 62d 62c 0 3 645 62d 645 0 3 645 ",
  "62d 64a 0 3 645 62c 62d 0 3 645 62c 645 0 3 645 62e 62c 0 3 645 62e 645 2 3 645 62c 62e 0 3 ",
  "647 645 62c 0 3 647 645 645 0 3 646 62d 645 0 3 646 62d 649 0 3 646 62c 645 0 3 646 62c 645 ",
  "0 3 646 62c 649 0 3 646 645 64a 0 3 646 645 649 0 3 64a 645 645 0 3 64a 645 645 0 3 628 62e ",
  "64a 0 3 62a 62c 64a 0 3 62a 62c 649 0 3 62a 62e 64a 0 3 62a 62e 649 0 3 62a 645 64a 0 3 62a ",
  "645 649 0 3 62c 645 64a 0 3 62c 62d 649 0 3 62c 645 649 0 3 633 62e 649 0 3 635 62d 64a 0 3 ",
  "634 62d 64a 0 3 636 62d 64a 0 3 644 62c 64a 0 3 644 645 64a 0 3 64a 62d 64a 0 3 64a 62c 64a ",
  "0 3 64a 645 64a 0 3 645 645 64a 0 3 642 645 64a 0 3 646 62d 64a 0 3 642 645 62d 0 3 644 62d ",
  "645 0 3 639 645 64a 0 3 643 645 64a 0 3 646 62c 62d 0 3 645 62e 64a 0 3 644 62c 645 0 3 643 ",
  "645 645 0 3 644 62c 645 0 3 646 62c 62d 0 3 62c 62d 64a 0 3 62d 62c 64a 0 3 645 62c 64a 0 3 ",
  "641 645 64a 0 3 628 62d 64a 0 3 643 645 645 0 3 639 62c 645 0 3 635 645 645 0 3 633 62e 64a ",
  "0 3 646 62c 64a 28 3 635 644 6d2 0 3 642 644 6d2 0 4 627 644 644 647 0 4 627 643 628 631 0 ",
  "4 645 62d 645 62f 0 4 635 644 639 645 0 4 631 633 648 644 0 4 639 644 64a 647 0 4 648 633 ",
  "644 645 0 3 635 644 649 0 12 635 644 649 20 627 644 644 647 20 639 644 64a 647 20 648 633 ",
  "644 645 0 8 62c 644 20 62c 644 627 644 647 0 4 631 6cc 627 644 4c 2 20 305 0 2 20 305 0 2 ",
  "20 305 0 2 20 305 23 2 20 64b 0 2 640 64b 0 2 20 64c 1 2 20 64d 1 2 20 64e 0 2 640 64e 0 2 ",
  "20 64f 0 2 640 64f 0 2 20 650 0 2 640 650 0 2 20 651 0 2 640 651 0 2 20 652 0 2 640 652 75 ",
  "2 644 622 0 2 644 622 0 2 644 623 0 2 644 623 0 2 644 625 0 2 644 625 0 2 644 627 0 2 644 ",
  "627 e6 2 20 304 d17a 2 1d157 1d165 0 2 1d158 1d165 0 3 1d158 1d165 1d16e 0 3 1d158 1d165 ",
  "1d16f 0 3 1d158 1d165 1d170 0 3 1d158 1d165 1d171 0 3 1d158 1d165 1d172 56 2 1d1b9 1d165 0 ",
  "2 1d1ba 1d165 0 3 1d1b9 1d165 1d16e 0 3 1d1ba 1d165 1d16e 0 3 1d1b9 1d165 1d16f 0 3 1d1ba ",
  "1d165 1d16f 1f40 2 30 2c 0 2 31 2c 0 2 32 2c 0 2 33 2c 0 2 34 2c 0 2 35 2c 0 2 36 2c 0 2 37 ",
  "2c 0 2 38 2c 0 2 39 2c 5 3 28 61 29 0 3 28 62 29 0 3 28 63 29 0 3 28 64 29 0 3 28 65 29 0 3 ",
  "28 66 29 0 3 28 67 29 0 3 28 68 29 0 3 28 69 29 0 3 28 6a 29 0 3 28 6b 29 0 3 28 6c 29 0 3 ",
  "28 6d 29 0 3 28 6e 29 0 3 28 6f 29 0 3 28 70 29 0 3 28 71 29 0 3 28 72 29 0 3 28 73 29 0 3 ",
  "28 74 29 0 3 28 75 29 0 3 28 76 29 0 3 28 77 29 0 3 28 78 29 0 3 28 79 29 0 3 28 7a 29 0 3 ",
  "3014 73 3015 2 2 63 64 0 2 77 7a 1b 2 68 76 0 2 6d 76 0 2 73 64 0 2 73 73 0 3 70 70 76 0 2 ",
  "77 63 1a 2 6d 63 0 2 6d 64 0 2 6d 72 23 2 64 6a 6f 2 307b 304b 0 2 30b3 30b3 3e 3 3014 672c ",
  "3015 0 3 3014 4e09 3015 0 3 3014 4e8c 3015 0 3 3014 5b89 3015 0 3 3014 70b9 3015 0 3 3014 ",
  "6253 3015 0 3 3014 76d7 3015 0 3 3014 52dd 3015 0 3 3014 6557 3015"]

def ignoredGaps : String := String.join [
  "ad 1 2a1 1 e0f 2 653 2 55 5 7fb 1 54 5 5 6 10f4 1 cc9b 10 ef 1 a0 1 bcff 4 14cf 8 c2f85 f0"]

def disallowedGaps : String := String.join [
  "80 20 2d8 2 6 4 7 1 1 1 14 1 18d 1 26 2 32 2 3 1 37 8 1b 4 6 11 16 1 c0 1 30 2 3b 2 65 e 3b ",
  "2 31 2 f 1 1c 2 1 1 b 5 20 7 4b 1 a1 1 8 2 2 2 16 1 7 1 1 3 4 2 9 2 2 2 4 8 1 4 2 1 5 2 19 ",
  "2 3 1 6 4 2 2 16 1 7 1 2 1 2 1 2 2 1 1 5 4 2 2 3 3 1 7 4 1 1 7 11 a 3 1 9 1 3 1 16 1 7 1 2 ",
  "1 5 2 a 1 3 1 3 2 1 f 4 2 c 7 7 1 3 1 8 2 2 2 16 1 7 1 2 1 5 2 9 2 2 2 3 7 3 4 2 1 5 2 12 a ",
  "2 1 6 3 3 1 4 3 2 1 1 1 2 3 2 3 3 3 c 4 5 3 3 1 4 2 1 6 1 e 15 5 d 1 3 1 17 1 10 2 9 1 3 1 ",
  "4 7 2 1 3 1 2 2 4 2 a 7 16 1 3 1 17 1 a 1 5 2 9 1 3 1 4 7 2 5 3 1 4 2 a 1 3 c d 1 3 1 33 1 ",
  "3 1 6 4 10 2 1a 1 3 1 12 3 18 1 9 1 1 2 7 3 1 4 6 1 1 1 8 6 a 2 3 c 3a 4 1d 25 2 1 1 1 5 1 ",
  "18 1 1 1 17 2 5 1 1 1 7 1 a 2 4 20 48 1 24 4 27 1 24 1 f 1 d 25 c6 1 1 5 1 2 179 1 4 2 7 1 ",
  "1 1 4 2 29 1 4 2 21 1 4 2 7 1 1 1 4 2 f 1 39 1 4 2 43 2 20 3 1a 6 56 2 6 2 280 1 1c 3 59 7 ",
  "16 9 18 9 14 c d 1 3 1 2 c 5e 2 a 6 a 6 1a 6 59 7 2b 5 46 a 1f 1 c 4 c 4 1 3 2a 2 5 b 2c 4 ",
  "1a 6 b 3 3e 2 41 1 1d 2 b 6 a 6 e 2 2e 2 c 14 4d 1 a6 8 3c 3 f 3 3e 5 2b 2 b 8 2b 5 216 2 6 ",
  "2 26 2 6 2 8 1 1 1 1 1 1 1 1f 2 35 1 f 1 e 2 6 1 13 2 3 1 9 1 e 2 14 3 1 7 36 5 8 2 1b 1 d ",
  "3 22 e 21 f 8c 4 29a 16 b 15 28 14 6d8 2 17e 5 2d 1 1 5 1 2 38 7 2 e 18 9 7 1 7 1 7 1 7 1 7 ",
  "1 7 1 7 1 7 1 7e 22 1a 1 59 c d6 2a 40 1 56 2 67 5 2b 1 5e 1 56 a 2f 1 1a2 1 4 1 10 1 70b4 ",
  "3 37 9 15c 14 b8 8 dd 14 3c 3 a 6 38 8 46 8 c 6 74 b 1e 3 4e 1 b 4 21 1 37 9 e 2 a 2 67 18 ",
  "1c a 6 2 6 2 6 9 7 1 7 1 3c 4 7e 2 a 6 2ba4 c 17 4 31 2104 16e 2 6a 26 7 c 5 5 1a 1 5 1 1 1 ",
  "2 1 2 1 28a 20 22 1 6 7 10 1 21 2 13 1 4 4 5 1 87 2 1 1 be 3 6 2 6 2 6 2 3 3 7 1 7 11 c 1 ",
  "1a 1 13 1 2 1 f 2 e 22 7b 5 3 4 2d 3 58 1 d 3 1 2f 2e 82 1d 3 31 f 1c 4 24 9 1e 5 2b 5 1e 1 ",
  "25 4 e 2a 9e 2 a 6 24 4 24 4 28 8 34 b c 1 f 1 7 1 2 1 b 1 f 1 7 1 2 3 34 c 137 9 16 a 8 18 ",
  "6 1 2a 1 9 45 6 2 1 1 2c 1 2 3 1 2 17 1 48 8 9 30 13 1 2 5 21 3 1b 5 1b 26 38 4 14 2 32 1 2 ",
  "5 8 1 3 1 1d 2 3 4 a 7 9 7 40 20 27 4 c 9 36 3 1d 2 1b 5 1a 7 4 c 7 50 49 37 33 d 33 7 2e 8 ",
  "a 6 26 3 1d 8 2 d0 1f 1 2a 1 3 2 2 10 6 8 9 21 2e 8 2a 16 1a 26 1c 14 17 9 4e 4 24 9 3e 1 5 ",
  "d 19 7 a 6 35 1 12 8 27 9 60 1 14 b 12 1 2f 3e 7 1 1 1 4 1 f 1 b 6 3b 5 a 6 4 1 8 2 2 2 16 ",
  "1 7 1 2 1 5 1 a 2 2 2 3 2 1 6 1 5 7 2 7 3 5 b a 1 1 2 1 1 26 1 a 1 1 2 1 1 4 1 a 1 2 8 2 1d ",
  "5c 1 5 1e 48 8 a a6 36 2 26 22 45 b a 6 d 13 3a 6 a 6 14 1c 1b 2 f 4 17 b9 3c 64 53 c 8 2 1 ",
  "2 8 1 2 1 1e 1 2 2 c 9 a 46 8 2 2e 2 b 1b 48 8 53 d 49 7 a 56 8 58 22 e a 6 9 1 2d 1 e a 1d ",
  "3 20 2 16 1 e 49 7 1 2 1 2c 3 1 1 2 1 9 8 a 6 6 1 2 1 25 1 2 1 6 7 a 6 2c 4 a f6 19 7 11 1 ",
  "29 3 1d 55 1 f 32 d 39b 66 6f 1 5 b c4 a4c 63 d 430 10 16 a f9b 5 247 1ab9 3a 6c6 239 7 1f ",
  "1 a 4 51 1 a 6 1e 2 6 a 46 a a 1 7 1 15 5 13 1b0 3a c6 5b 5 19 2 19 2c 4b 4 39 7 11 40 5 b ",
  "7 9 1cd6 29 20 61 73 21fd 4 1 7 1 2 1 123 f 1 1d 3 2 1 e 4 8 18c 904 6b 5 d 3 9 7 a 2 8 f5c ",
  "fd 3 1b4 6 17 f 11 f 2e 2 17 9 74 3c f6 a 27 2 c2 15 46 7a 14 c 14 c 57 9 19 87 55 1 47 1 2 ",
  "2 1 2 2 2 4 1 c 1 1 1 7 1 41 1 4 2 8 1 7 1 1c 1 4 1 5 1 1 3 7 1 154 2 124 2 2be f 5 1 f 450 ",
  "1f 6 6 d5 7 1 11 2 7 1 2 1 5 5 3e 21 1 70 2d 3 e 2 a 4 2 140 1f 11 3a 5 1 1d0 2a d6 2b 4 1 ",
  "c0 1f 1 16 8 2 e0 7 1 4 1 2 1 f 1 c5 2 10 29 4c 4 a 4 2 311 44 4c 3d c2 4 1 1b 1 2 1 1 2 1 ",
  "1 a 1 4 1 1 1 1 6 1 4 1 1 1 1 1 1 3 1 2 1 1 2 1 1 1 1 1 1 1 1 1 1 2 1 1 2 4 1 7 1 4 1 4 1 1 ",
  "1 a 1 11 5 3 1 5 1 11 34 2 10e 2c 4 64 c f 2 f 1 f 1 25 b ad 38 1d d 2c 4 9 7 2 e 6 9a 3d9 ",
  "3 11 3 d 3 da 6 c 4 1 f c 4 38 8 a 6 28 8 1e 2 c 4 2 e 9 27 158 8 e 2 d 3 b 3 39 1 1 4 10 2 ",
  "c 4 a 7 93 1 67 405 a6e0 20 111e 2 168e 2 1d31 f 26e 9a2 21e 5e2 134b 5 212a acc86 f0 2fe10"]

/-- A run of characters, each `stride` after the one before. -/
structure Run where
  first : Nat
  count : Nat
  stride : Nat
  /-- The distance to what a character becomes. -/
  distance : Int
deriving Repr, DecidableEq

/-- Distances back are odd. -/
def signedOf (code : Nat) : Int :=
  if code % 2 = 0 then (code / 2 : Nat) else -((code + 1) / 2 : Nat)

def runsFrom (position : Nat) : List Nat → List Run
  | gap :: size :: distance :: rest =>
    let run : Run := ⟨position + gap, size / 2, size % 2 + 1, signedOf distance⟩
    run :: runsFrom (run.first + (run.count - 1) * run.stride + 1) rest
  | _ => []

def singleRuns : List Run :=
  runsFrom 0 (hexNumbersFrom 0 singleText.toList)

def Run.holds (run : Run) (code : Nat) : Bool :=
  run.first ≤ code && (code - run.first) % run.stride = 0 &&
    (code - run.first) / run.stride < run.count

/-- Entries of a character and several that it becomes; `fuel` bounds their number. -/
def entriesFrom : (fuel : Nat) → (position : Nat) → List Nat → List (Nat × List Nat)
  | fuel + 1, position, gap :: size :: rest =>
    (position + gap, rest.take size) :: entriesFrom fuel (position + gap + 1) (rest.drop size)
  | _, _, _ => []

def severalEntries : List (Nat × List Nat) :=
  let numbers := hexNumbersFrom 0 severalText.toList
  entriesFrom numbers.length 0 numbers

def ignored : Ranges :=
  Ranges.ofGaps ignoredGaps

def disallowed : Ranges :=
  Ranges.ofGaps disallowedGaps

def foldedTo? (code : Nat) : Option (List Nat) :=
  match singleRuns.find? (·.holds code) with
  | some run => some [(code + run.distance).toNat]
  | none => (severalEntries.find? (·.1 == code)).map (·.2)

def foldChar? (c : Char) : Option (List Char) :=
  let code := c.toNat
  if code < 0x80 then some [c.toLower]
  else if ignored.contains code then some []
  else if disallowed.contains code then none
  else
    match foldedTo? code with
    | some codes => some (codes.map Char.ofNat)
    | none => some [c]

def fold? (text : List Char) : Option (List Char) :=
  (text.mapM foldChar?).map List.flatten

end Televisor.Unicode
